/-
# Lines

All line ends of a text file are read as line feeds.  Positions in the text are then given as line and column, both
counted from one, and as the number of characters before.
-/
namespace ApiTypes.Text

/-- Reads a carriage return, with the line feed after it if there is one, as one line feed. -/
def unifyLineEnds : List Char → List Char
  | [] => []
  | '\r' :: '\n' :: rest => '\n' :: unifyLineEnds rest
  | '\r' :: rest => '\n' :: unifyLineEnds rest
  | c :: rest => c :: unifyLineEnds rest

/-- The text without one line feed at its very end. -/
def dropFinalLineFeed (s : List Char) : List Char :=
  if s.getLast? = some '\n' then s.dropLast else s

/-- A position in a text. -/
structure Position where
  line : Nat
  column : Nat
  index : Nat
  deriving DecidableEq

/-- The position after a number of characters. -/
def positionAt (s : List Char) (index : Nat) : Position :=
  let before := s.take index
  ⟨before.count '\n' + 1, (before.reverse.takeWhile (· ≠ '\n')).length + 1, index⟩

/-- A position as it stands in messages. -/
def Position.text (p : Position) : String :=
  "line " ++ p.line.repr ++ " column " ++ p.column.repr ++ " (char " ++ p.index.repr ++ ")"

end ApiTypes.Text
