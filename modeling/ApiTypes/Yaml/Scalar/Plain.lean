/-
# Scalars without quotes

Text that ends before a comment, before a colon with a blank behind it and, inside brackets, before a bracket, a comma or
a question mark.  It may go on over several lines as long as the lines keep the margin of the collection around it; line
ends are folded as in quotes.
-/
import ApiTypes.Yaml.Scalar.Quoted

namespace ApiTypes.Yaml

/-- Whether a character is a bracket or a comma. -/
def isFlowIndicator (c : Char) : Bool :=
  c = ',' || c = '[' || c = ']' || c = '\x7b' || c = '\x7d'

/-- Whether a scalar ends before a character, given what follows it. -/
def endsPlain (flow : Bool) (ch : Char) (rest : List Char) : Bool :=
  isBlank ch
    || (ch = ':' && (match rest with
      | [] => true
      | following :: _ => isBlank following || (flow && isFlowIndicator following)))
    || (flow && (ch = '?' || isFlowIndicator ch))

/-- The part of a scalar up to the next blank. -/
def takePlain (flow : Bool) : List Char → List Char
  | [] => []
  | ch :: rest => if endsPlain flow ch rest then [] else ch :: takePlain flow rest

/-- Skips the lines without text and collects their line ends; nothing comes back where a document ends. -/
def plainBreaks : Nat → Cursor → Option (List Char) × Cursor
  | 0, c => (some [], c)
  | fuel + 1, c =>
    let after := c.skipSpaces
    match after.lineBreak? with
    | none => (some [], after)
    | some (ch, next) =>
      if next.atDocumentMark then (none, next)
      else
        let (breaks, after) := plainBreaks fuel next
        (breaks.map (ch :: ·), after)

/-- What stands between two parts of a scalar: its folded text, whether a line ended, and the place after it.  The text is
empty where the scalar ends. -/
def plainSpaces (c : Cursor) : List Char × Bool × Cursor :=
  let (spaces, after) := c.span (· = ' ')
  match after.lineBreak? with
  | none => (spaces, false, after)
  | some (first, next) =>
    if next.atDocumentMark then ([], true, next)
    else
      let (others, after) := plainBreaks next.rest.length next
      ((others.map (foldBreaks first)).getD [], true, after)

/-- A scalar as it is read: its text, whether a line ended after its last part, and the place after it. -/
structure PlainScalar where
  text : List Char
  lineEnded : Bool
  after : Cursor

/-- Reads the parts of a scalar; `done` holds the text so far in reverse and `spaces` what stands before the next part. -/
def readPlain (flow : Bool) (margin : Nat) : Nat → (done spaces : List Char) → (lineEnded : Bool) → Cursor → PlainScalar
  | 0, done, _, lineEnded, c => ⟨done.reverse, lineEnded, c⟩
  | fuel + 1, done, spaces, lineEnded, c =>
    let part := if c.nextIs (· = '#') then [] else takePlain flow c.rest
    if part.isEmpty then ⟨done.reverse, lineEnded, c⟩
    else
      let done := part.reverse ++ (spaces.reverse ++ done)
      let (spaces, lineEnded, after) := plainSpaces (c.forward part.length)
      if spaces.isEmpty || after.nextIs (· = '#') || (!flow && after.column < margin) then
        ⟨done.reverse, lineEnded, after⟩
      else readPlain flow margin fuel done spaces lineEnded after

/-- A scalar without quotes; `margin` is the least column at which a further line may start. -/
def readPlainScalar (flow : Bool) (margin : Nat) (c : Cursor) : PlainScalar :=
  readPlain flow margin (c.rest.length + 1) [] [] false c

end ApiTypes.Yaml
