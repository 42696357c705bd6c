/-
# Names of declarations

How a declaration gets its name: a schema is named after its key, a reference after the last segment of its
pointer, and the declarations of an operation after its method and its path.

* `upperFirst` raises a leading ASCII small letter and leaves the rest alone.
* `cleanName` drops one namespace, writes `_` for `.` and raises the first letter.
* `lastSegment` is the part of a pointer after its last slash.
* `pathTypeName` runs the segments of a path together, a parameter `{x}` or `:x` becoming `ByX`.
-/
import ApiTypes.Text.Lines
import ApiTypes.Text.Split

namespace ApiTypes.Name

open Text (splitOn dropFinalLineFeed)

/-! ## The first letter -/

/-- Raises a leading small letter `a` to `z`; every other first character stays. -/
def raiseFirst : List Char → List Char
  | [] => []
  | c :: rest => c.toUpper :: rest

/-- `raiseFirst` on strings. -/
def upperFirst (s : String) : String :=
  String.ofList (raiseFirst s.toList)

@[simp] theorem toList_upperFirst (s : String) : (upperFirst s).toList = raiseFirst s.toList := by
  simp [upperFirst]

@[simp] theorem raiseFirst_nil : raiseFirst [] = [] := rfl

/-! ## Schema names -/

/-- The namespaces that a schema name may start with and that its declaration does not show. -/
def namespaces : List (List Char) :=
  ["common.".toList, "entities.".toList, "responses.".toList]

/-- Drops the first of the given beginnings that the text starts with, once. -/
def dropOneOf : List (List Char) → List Char → List Char
  | [], s => s
  | start :: others, s => if start.isPrefixOf s then s.drop start.length else dropOneOf others s

/-- A dot cannot stand in a declared name and is written as an underscore. -/
def dotToUnderscore (c : Char) : Char :=
  if c = '.' then '_' else c

theorem dotToUnderscore_ne_dot (c : Char) : dotToUnderscore c ≠ '.' := by
  unfold dotToUnderscore
  split
  · decide
  · assumption

/-- `cleanName` on lists of characters. -/
def clean (s : List Char) : List Char :=
  raiseFirst ((dropOneOf namespaces s).map dotToUnderscore)

/-- The name of the declaration made for a schema: one namespace is dropped, dots become underscores and a leading
small letter is raised. -/
def cleanName (name : String) : String :=
  String.ofList (clean name.toList)

@[simp] theorem toList_cleanName (name : String) : (cleanName name).toList = clean name.toList := by
  simp [cleanName]

/-- The part of a pointer after its last slash, or all of it when it has none. -/
def lastSegment (pointer : String) : String :=
  String.ofList ((splitOn '/' pointer.toList).getLastD [])

/-! ## Names from paths -/

/-- The parameter of a segment `{x}`: the text between the outer braces, which stands on one line.  A line feed at the very
end does not count. -/
def braced? (segment : List Char) : Option (List Char) :=
  match dropFinalLineFeed segment with
  | '{' :: rest =>
    if rest.getLast? = some '}' ∧ '\n' ∉ rest.dropLast then some rest.dropLast else none
  | _ => none

/-- The share of one path segment in a name: `:x` and `{x}` give `ByX`, other text is only raised. -/
def segmentName : List Char → List Char
  | ':' :: param => 'B' :: 'y' :: raiseFirst param
  | segment =>
    match braced? segment with
    | some param => 'B' :: 'y' :: raiseFirst param
    | none => raiseFirst segment

@[simp] theorem segmentName_nil : segmentName [] = [] := rfl

/-- The name fragment of a path: its segments' shares run together.  An empty segment has no share, so that slashes
at the ends and doubled slashes do not matter. -/
def pathTypeName (path : String) : String :=
  String.ofList ((splitOn '/' path.toList).flatMap segmentName)

@[simp] theorem toList_pathTypeName (path : String) :
    (pathTypeName path).toList = (splitOn '/' path.toList).flatMap segmentName := by
  simp [pathTypeName]

end ApiTypes.Name
