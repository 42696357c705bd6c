/-
# Paths of files

A path is the list of its parts in normal form: doubled slashes, slashes at the end and parts `.` are gone, parts `..`
stay.  The path without parts is the working directory and is written `.`; an absolute path starts with the part `/`, which
leads to the root.
-/
import ApiTypes.Text.Split
import ApiTypes.Text.UpperCase

namespace ApiTypes

/-- A path, given by its parts. -/
structure Path where
  parts : List String
  deriving DecidableEq

namespace Path

/-- The path that a text writes. -/
def ofText (s : String) : Path :=
  let parts := ((Text.splitOn '/' s.toList).map String.ofList).filter fun part => part ≠ "" ∧ part ≠ "."
  ⟨if s.toList.head? = some '/' then "/" :: parts else parts⟩

/-- A path as text. -/
def text (p : Path) : String :=
  match p.parts with
  | [] => "."
  | "/" :: parts => "/" ++ "/".intercalate parts
  | parts => "/".intercalate parts

/-- The path without its last part. -/
def parent (p : Path) : Path := ⟨p.parts.dropLast⟩

/-- Whether the text of a path holds the character NUL, which no system accepts. -/
def hasNull (p : Path) : Bool :=
  p.parts.any fun part => part.toList.contains '\x00'

/-- The ending of a name: its last dot and what follows, unless the dot is the first or the last character. -/
def suffixOf (name : List Char) : List Char :=
  let ending := name.reverse.takeWhile (· ≠ '.')
  if ending.isEmpty ∨ name.length ≤ ending.length + 1 then [] else '.' :: ending.reverse

/-- The ending of the last part of a path. -/
def suffix (p : Path) : String :=
  String.ofList (suffixOf (p.parts.getLastD "").toList)

/-- Whether a path names a YAML document; the others are JSON. -/
def isYaml (p : Path) : Bool :=
  let suffix := Text.lowerAscii p.suffix
  suffix = ".yaml" || suffix = ".yml"

end Path

end ApiTypes
