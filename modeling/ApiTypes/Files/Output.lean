/-
# Writing the output

The output file is written with all missing directories above it.  Directories that were made stay even when a later
step fails; a file is only ever changed by the last step.

`makeDirectories` makes a directory, and when the one above is missing makes that first and then tries once more.
-/
import ApiTypes.Files.Tree
import ApiTypes.Text.Quoted
import ApiTypes.Text.Utf8

namespace ApiTypes

/-- A fault with the path at which it arose. -/
structure PathFault where
  fault : FileFault
  path : Path
  deriving DecidableEq

/-- The message of a fault, with its path in quotes. -/
def PathFault.message (f : PathFault) : String :=
  f.fault.message ++ ": " ++ Text.quoted f.path.text

/-- Why the output was not written: a directory could not be made, the file could not be written, or the path is no
path. -/
inductive WriteError
  | directory (parent : Path) (fault : PathFault)
  | file (fault : PathFault)
  | nullByte
  deriving DecidableEq

/-- The message of an error. -/
def WriteError.message : WriteError → String
  | directory parent fault => "Failed to create output directory " ++ parent.text ++ ": " ++ fault.message
  | file fault => "Failed to write file " ++ fault.path.text ++ ": " ++ fault.message
  | nullByte => "embedded null byte"

namespace FileTree

/-- Makes the directory with the given parts, the last part first, and every missing one above it.  A directory that is
there already will do. -/
def makeDirectories : List String → FileTree → Except PathFault Unit × FileTree
  | [], tree => (.ok (), tree)
  | name :: above, tree =>
    let path : Path := ⟨(name :: above).reverse⟩
    match tree.makeDirectory path with
    | .ok made => (.ok (), made)
    | .error .missing =>
      match makeDirectories above tree with
      | (.error fault, made) => (.error fault, made)
      | (.ok (), made) =>
        match made.makeDirectory path with
        | .ok all => (.ok (), all)
        | .error fault => (if made.isDirectory path then .ok () else .error ⟨fault, path⟩, made)
    | .error fault => (if tree.isDirectory path then .ok () else .error ⟨fault, path⟩, tree)

/-- Writes a text to a file, making the directories above it. -/
def writeOutput (tree : FileTree) (path : Path) (text : String) : Except WriteError Unit × FileTree :=
  if path.parent.hasNull then (.error .nullByte, tree)
  else
    match makeDirectories path.parent.parts.reverse tree with
    | (.error fault, made) => (.error (.directory path.parent fault), made)
    | (.ok (), made) =>
      if path.hasNull then (.error .nullByte, made)
      else
        match made.writeFile path (Text.encodeUtf8 text) with
        | .ok written => (.ok (), written)
        | .error fault => (.error (.file ⟨fault, path⟩), made)

end FileTree

end ApiTypes
