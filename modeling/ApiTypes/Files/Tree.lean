/-
# Trees of files

A file system from its root on, with the root as the working directory: above it there is nothing, so that a part `..`
stays there, and an absolute path leads where the same path without its first slash does.

A place in the tree is the list of names that lead to it; each place holds a directory, a file or nothing.  Places are what
a path is resolved to: a part `..` leads back, and every part but the last has to be a directory.
-/
import ApiTypes.Files.Path

namespace ApiTypes

/-- What a place holds. -/
inductive FileNode
  | directory
  | file (content : List UInt8)
  deriving DecidableEq

/-- A place: the names that lead to it from the root. -/
abbrev Place := List String

/-- Where a part leads from a place, whatever is there: a part `..` leads back, the part `/` to the root, and any other part
leads on. -/
def Place.next (place : Place) (part : String) : Place :=
  if part = ".." then place.dropLast else if part = "/" then [] else place ++ [part]

/-- The place that a path spells, whether or not there is a way to it. -/
def Path.place (p : Path) : Place := p.parts.foldl Place.next []

/-- The places that hold something, other than the root itself. -/
structure FileTree where
  entries : List (Place × FileNode)
  deriving DecidableEq

/-- Why a place cannot be reached or used. -/
inductive FileFault
  | missing
  | alreadyThere
  | notDirectory
  | isDirectory
  deriving DecidableEq

/-- The number and the wording of a fault. -/
def FileFault.message : FileFault → String
  | missing => "[Errno 2] No such file or directory"
  | alreadyThere => "[Errno 17] File exists"
  | notDirectory => "[Errno 20] Not a directory"
  | isDirectory => "[Errno 21] Is a directory"

namespace FileTree

/-! ## Places -/

/-- Looks up a place in a list of entries. -/
def find (place : Place) : List (Place × FileNode) → Option FileNode
  | [] => none
  | (p, node) :: rest => if p = place then some node else find place rest

/-- What a place holds. -/
def at? (tree : FileTree) (place : Place) : Option FileNode :=
  if place = [] then some .directory else find place tree.entries

/-- Replaces what an entry holds, or adds one at the end. -/
def putEntry (place : Place) (node : FileNode) : List (Place × FileNode) → List (Place × FileNode)
  | [] => [(place, node)]
  | (p, old) :: rest => if p = place then (p, node) :: rest else (p, old) :: putEntry place node rest

/-- Puts something at a place. -/
def put (tree : FileTree) (place : Place) (node : FileNode) : FileTree :=
  ⟨putEntry place node tree.entries⟩

theorem find_putEntry (place other : Place) (node : FileNode) (entries : List (Place × FileNode)) :
    find place (putEntry other node entries) = if place = other then some node else find place entries := by
  induction entries with
  | nil =>
      by_cases h : place = other
      · simp [putEntry, find, h]
      · simp [putEntry, find, h, Ne.symm h]
  | cons entry rest ih =>
      obtain ⟨p, old⟩ := entry
      by_cases hp : p = other
      · by_cases h : place = other
        · simp [putEntry, find, hp, h]
        · simp [putEntry, find, hp, h, Ne.symm h]
      · by_cases h : p = place
        · subst h
          simp [putEntry, find, hp]
        · simp [putEntry, find, hp, h, ih]

/-- Putting something at a place changes that place and no other. -/
theorem at?_put (tree : FileTree) (place other : Place) (node : FileNode) (h : other ≠ []) :
    (tree.put other node).at? place = if place = other then some node else tree.at? place := by
  by_cases hp : place = []
  · subst hp
    simp [at?, Ne.symm h]
  · simp [at?, put, hp, find_putEntry]

/-! ## Resolving paths -/

/-- The directory that a part leads to. -/
def step (tree : FileTree) (place : Place) (part : String) : Except FileFault Place :=
  match tree.at? (place.next part) with
  | some .directory => .ok (place.next part)
  | some (.file _) => .error .notDirectory
  | none => .error .missing

/-- The directory that a list of parts leads to. -/
def walk (tree : FileTree) (place : Place) : List String → Except FileFault Place
  | [] => .ok place
  | part :: rest =>
    match tree.step place part with
    | .ok next => tree.walk next rest
    | .error fault => .error fault

/-- The place that a path names; its last part need not be there. -/
def resolve (tree : FileTree) (path : Path) : Except FileFault Place :=
  match tree.walk [] path.parts.dropLast with
  | .error fault => .error fault
  | .ok place =>
    match path.parts.getLast? with
    | none => .ok place
    | some part => .ok (place.next part)

/-- What a path names. -/
def get? (tree : FileTree) (path : Path) : Option FileNode :=
  match tree.resolve path with
  | .ok place => tree.at? place
  | .error _ => none

/-- The content of the file that a path names. -/
def content? (tree : FileTree) (path : Path) : Option (List UInt8) :=
  match tree.get? path with
  | some (.file content) => some content
  | _ => none

/-- Whether a path names a directory. -/
def isDirectory (tree : FileTree) (path : Path) : Bool :=
  tree.get? path = some .directory

/-! ## Changing the tree -/

/-- Makes one directory where there is nothing yet. -/
def makeDirectory (tree : FileTree) (path : Path) : Except FileFault FileTree :=
  match tree.resolve path with
  | .error fault => .error fault
  | .ok place => if (tree.at? place).isSome then .error .alreadyThere else .ok (tree.put place .directory)

/-- Writes a file, in place of the one that is there. -/
def writeFile (tree : FileTree) (path : Path) (content : List UInt8) : Except FileFault FileTree :=
  match tree.resolve path with
  | .error fault => .error fault
  | .ok place =>
    if tree.at? place = some .directory then .error .isDirectory else .ok (tree.put place (.file content))

/-! ## Comparing trees -/

/-- A place as text. -/
def placeText (place : Place) : String := "/".intercalate place

/-- Puts an entry into a list sorted by the text of the places. -/
def insertSorted (entry : Place × FileNode) : List (Place × FileNode) → List (Place × FileNode)
  | [] => [entry]
  | first :: rest =>
    if placeText entry.1 < placeText first.1 then entry :: first :: rest else first :: insertSorted entry rest

/-- What is in a tree and was not there, or not so, before; sorted by the text of the places. -/
def changesSince (before after : FileTree) : List (Place × FileNode) :=
  (after.entries.filter fun entry => before.at? entry.1 ≠ some entry.2).foldl
    (fun sorted entry => insertSorted entry sorted) []

end FileTree

end ApiTypes
