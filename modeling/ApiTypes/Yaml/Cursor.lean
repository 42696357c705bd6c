/-
# A place in YAML text

What is left of a text together with the place where it stands: the number of characters before, the line and the
column, all counted from zero.  Line ends are line feeds by now; next line and the two Unicode separators end a line as
well.
-/
namespace ApiTypes.Yaml

/-- What is left of a text, and where. -/
structure Cursor where
  rest : List Char
  index : Nat
  line : Nat
  column : Nat
  deriving DecidableEq

/-- Whether a character ends a line. -/
def isBreak (c : Char) : Bool :=
  c = '\n' || c = '\x85' || c = '\u2028' || c = '\u2029'

/-- Whether a character is a space or a tab. -/
def isWhite (c : Char) : Bool :=
  c = ' ' || c = '\t'

/-- Whether a character separates tokens. -/
def isBlank (c : Char) : Bool :=
  isWhite c || isBreak c

/-- Whether a character may stand in the name of an anchor, a directive or a tag handle. -/
def isWordChar (c : Char) : Bool :=
  c.isAlphanum || c = '-' || c = '_'

namespace Cursor

/-- The start of a text. -/
def start (s : List Char) : Cursor := ⟨s, 0, 0, 0⟩

/-- Moves over one character.  A byte order mark takes no column. -/
def next (c : Cursor) : Cursor :=
  match c.rest with
  | [] => c
  | ch :: rest =>
    if isBreak ch then ⟨rest, c.index + 1, c.line + 1, 0⟩
    else if ch = '\uFEFF' then ⟨rest, c.index + 1, c.line, c.column⟩
    else ⟨rest, c.index + 1, c.line, c.column + 1⟩

/-- Moves over a number of characters. -/
def forward (c : Cursor) : Nat → Cursor
  | 0 => c
  | n + 1 => c.next.forward n

/-- The next character, if there is one. -/
def peek? (c : Cursor) : Option Char := c.rest.head?

/-- Whether the text ends here or the next character satisfies a test. -/
def atEndOr (c : Cursor) (p : Char → Bool) : Bool :=
  match c.rest with
  | [] => true
  | ch :: _ => p ch

/-- Whether the next character satisfies a test. -/
def nextIs (c : Cursor) (p : Char → Bool) : Bool :=
  match c.rest with
  | [] => false
  | ch :: _ => p ch

/-- The characters that satisfy a test, and what follows them. -/
def span (c : Cursor) (p : Char → Bool) : List Char × Cursor :=
  let taken := c.rest.takeWhile p
  (taken, c.forward taken.length)

/-- What follows the characters that satisfy a test. -/
def skip (c : Cursor) (p : Char → Bool) : Cursor :=
  (c.span p).2

/-- What follows the spaces. -/
def skipSpaces (c : Cursor) : Cursor := c.skip (· = ' ')

/-- The line end that stands here, as it is kept in scalars, and what follows it. -/
def lineBreak? (c : Cursor) : Option (Char × Cursor) :=
  match c.rest with
  | ch :: _ => if isBreak ch then some (if ch = '\x85' then '\n' else ch, c.next) else none
  | [] => none

/-- What follows the comment that stands here, if there is one. -/
def skipComment (c : Cursor) : Cursor :=
  if c.nextIs (· = '#') then c.skip (fun ch => !isBreak ch) else c

/-- Whether the text goes on with the given characters and then a blank or its end. -/
def standsAlone (c : Cursor) (word : List Char) : Bool :=
  word.isPrefixOf c.rest && (c.forward word.length).atEndOr isBlank

/-- Whether a line that marks the start or the end of a document stands here. -/
def atDocumentMark (c : Cursor) : Bool :=
  c.standsAlone ['-', '-', '-'] || c.standsAlone ['.', '.', '.']

end Cursor

end ApiTypes.Yaml
