/-
# Scalars in blocks

Text in lines of its own, after a bar or a greater-than sign.  The header may give the indentation and say what becomes of
the line ends at the end: all kept, one kept, or none.  After a greater-than sign lines are folded, except those that start
with a blank.
-/
import ApiTypes.Yaml.Lexeme

namespace ApiTypes.Yaml

/-- What becomes of the line ends at the end of a block. -/
inductive Chomping
  | strip
  | clip
  | keep
  deriving DecidableEq

/-! ## The header -/

/-- The chomping that a sign asks for. -/
def chomping? (c : Char) : Option Chomping :=
  if c = '+' then some .keep else if c = '-' then some .strip else none

/-- The sign of the chomping that stands here, if there is one. -/
def takeChomping (c : Cursor) : Option Chomping × Cursor :=
  match c.peek?.bind chomping? with
  | some chomping => (some chomping, c.next)
  | none => (none, c)

/-- The digit of the indentation that stands here, if there is one; it is not zero. -/
def takeIncrement (c : Cursor) : Except Error (Option Nat × Cursor) :=
  match c.peek? with
  | some ch =>
    if ch = '0' then refuse .blockHeader
    else if ch.isDigit then .ok (some (ch.toNat - 48), c.next)
    else .ok (none, c)
  | none => .ok (none, c)

/-- The chomping and the indentation that the header asks for, in either order. -/
def readHeader (c : Cursor) : Except Error (Chomping × Option Nat × Cursor) := do
  let (first, after) := takeChomping c
  let (increment, after) ← takeIncrement after
  let (second, after) := if first.isNone && increment.isSome then takeChomping after else (none, after)
  if !after.atEndOr endsWord then refuse .blockHeader
  else
    let after ← finishLine .blockHeader after
    pure ((first.or second).getD .clip, increment, after)

/-! ## The lines -/

/-- Skips the blank lines in front of the text; gives their line ends, the widest indentation seen, and the place of the
text. -/
def leadingLines : Nat → Nat → Cursor → List Char × Nat × Cursor
  | 0, widest, c => ([], widest, c)
  | fuel + 1, widest, c =>
    let after := c.skipSpaces
    let widest := max widest after.column
    match after.lineBreak? with
    | none => ([], widest, after)
    | some (ch, next) =>
      let (breaks, widest, after) := leadingLines fuel widest next
      (ch :: breaks, widest, after)

/-- What follows the spaces here, up to a column. -/
def skipIndent (indent : Nat) (c : Cursor) : Cursor :=
  c.forward (min (indent - c.column) (c.rest.takeWhile (· = ' ')).length)

/-- Skips the indentation and blank lines before the next line of text, and collects their line ends. -/
def blockBreaks (indent : Nat) : Nat → Cursor → List Char × Cursor
  | 0, c => ([], c)
  | fuel + 1, c =>
    let after := skipIndent indent c
    match after.lineBreak? with
    | none => ([], after)
    | some (ch, next) =>
      let (breaks, after) := blockBreaks indent fuel next
      (ch :: breaks, after)

/-- What stands between two lines of text: the line end, folded to a space where both lines start with text. -/
def joinLines (folded : Bool) (lineBreak : Option Char) (textBefore textAfter : Bool) (breaks : List Char) : List Char :=
  if folded && lineBreak = some '\n' && textBefore && textAfter then (if breaks.isEmpty then [' '] else [])
  else lineBreak.toList

/-- The tail of a block: its last line end and those after it, as far as they are kept. -/
def chompTail (chomping : Chomping) (lineBreak : Option Char) (breaks : List Char) : List Char :=
  match chomping with
  | .strip => []
  | .clip => lineBreak.toList
  | .keep => lineBreak.toList ++ breaks

/-- Reads the lines of a block; `done` holds the text so far in reverse, `lineBreak` the end of the line before and `breaks`
the line ends after it. -/
def readLines (folded : Bool) (chomping : Chomping) (indent : Nat) :
    Nat → (done : List Char) → (lineBreak : Option Char) → (breaks : List Char) → Cursor → List Char × Cursor
  | 0, done, lineBreak, breaks, c => ((done.reverse ++ chompTail chomping lineBreak breaks), c)
  | fuel + 1, done, lineBreak, breaks, c =>
    if c.column = indent && !c.rest.isEmpty then
      let textBefore := !c.nextIs isWhite
      let (line, after) := c.span fun ch => !isBreak ch
      let done := line.reverse ++ (breaks.reverse ++ done)
      let (lineBreak, after) := match after.lineBreak? with
        | some (ch, next) => (some ch, next)
        | none => (none, after)
      let (breaks, after) := blockBreaks indent after.rest.length after
      if after.column = indent && !after.rest.isEmpty then
        let joint := joinLines folded lineBreak textBefore (!after.nextIs isWhite) breaks
        readLines folded chomping indent fuel (joint.reverse ++ done) none breaks after
      else (done.reverse ++ chompTail chomping lineBreak breaks, after)
    else (done.reverse ++ chompTail chomping lineBreak breaks, c)

/-- A scalar in a block, from its sign on; `margin` is the least column of text inside the collection around it. -/
def readBlockScalar (folded : Bool) (margin : Nat) (c : Cursor) : Except Error (Token × Cursor) := do
  let (chomping, increment, after) ← readHeader c.next
  let least := max margin 1
  let (breaks, indent, after) := match increment with
    | none =>
      let (breaks, widest, after) := leadingLines after.rest.length 0 after
      (breaks, max least widest, after)
    | some increment =>
      let indent := least + increment - 1
      let (breaks, after) := blockBreaks indent after.rest.length after
      (breaks, indent, after)
  let (text, after) := readLines folded chomping indent (after.rest.length + 1) [] none breaks after
  pure (.scalar (String.ofList text) false, after)

end ApiTypes.Yaml
