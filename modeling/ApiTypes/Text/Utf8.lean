/-
# Reading UTF-8

The text of a file is decoded byte by byte.  Between characters the machine is at `Stage.between`; inside one it knows
where the character began, how many bytes are still owed and between which bounds the next one has to lie, which rules out
overlong forms, surrogates and codes beyond U+10FFFF at the first byte that shows them.

A file may be read whole or in blocks; in blocks the positions of a fault count from the start of the block, or from the
start of a character that the block before left open.  A surrogate counts as left open when the block ends after its second
byte, although that byte already shows the fault.
-/
namespace ApiTypes.Text

/-! ## Faults -/

/-- Why bytes are no UTF-8. -/
inductive Utf8Cause
  | invalidStart
  | invalidContinuation
  | unexpectedEnd
  deriving DecidableEq

/-- A fault: the bytes in question, given by their position and the value of the first one. -/
structure Utf8Fault where
  cause : Utf8Cause
  byte : UInt8
  first : Nat
  last : Nat
  deriving DecidableEq

/-- The wording of a cause. -/
def Utf8Cause.message : Utf8Cause → String
  | invalidStart => "invalid start byte"
  | invalidContinuation => "invalid continuation byte"
  | unexpectedEnd => "unexpected end of data"

/-- A byte in two hexadecimal digits. -/
def hexByte (b : UInt8) : String :=
  String.ofList [Nat.digitChar (b.toNat / 16), Nat.digitChar (b.toNat % 16)]

/-- The message of a fault. -/
def Utf8Fault.message (f : Utf8Fault) : String :=
  (if f.first = f.last then
    "'utf-8' codec can't decode byte 0x" ++ hexByte f.byte ++ " in position " ++ f.first.repr
  else "'utf-8' codec can't decode bytes in position " ++ f.first.repr ++ "-" ++ f.last.repr)
    ++ ": " ++ f.cause.message

/-! ## The machine -/

/-- Where the machine stands: between characters, or inside one that began at `start` with the byte `lead`, with the code
so far, the number of bytes owed and the bounds of the next one. -/
inductive Stage
  | between
  | inside (start : Nat) (lead : UInt8) (code owed least greatest : Nat)

/-- What a lead byte opens: the code so far, the number of bytes owed and the bounds of the next one. -/
def opening? (b : Nat) : Option (Nat × Nat × Nat × Nat) :=
  if 0xC2 ≤ b ∧ b ≤ 0xDF then some (b - 0xC0, 1, 0x80, 0xBF)
  else if b = 0xE0 then some (0, 2, 0xA0, 0xBF)
  else if b = 0xED then some (0xD, 2, 0x80, 0x9F)
  else if 0xE1 ≤ b ∧ b ≤ 0xEF then some (b - 0xE0, 2, 0x80, 0xBF)
  else if b = 0xF0 then some (0, 3, 0x90, 0xBF)
  else if 0xF1 ≤ b ∧ b ≤ 0xF3 then some (b - 0xF0, 3, 0x80, 0xBF)
  else if b = 0xF4 then some (4, 3, 0x80, 0x8F)
  else none

/-- The position from which the positions of the block count that begins at `index`. -/
def blockBase (stage : Stage) (index : Nat) : Nat :=
  match stage with
  | .between => index
  | .inside start _ _ _ _ _ => start

/-- Whether two bytes open the code of a surrogate, which no text has. -/
def opensSurrogate (lead second : UInt8) : Bool :=
  lead = 0xED && 0xA0 ≤ second && second ≤ 0xBF

/-- Whether the byte at `index` is the last one of its block; `atEnd` tells whether it is the last one of the file. -/
def endsBlock (block : Option Nat) (index : Nat) (atEnd : Bool) : Bool :=
  block.any fun size => atEnd || (index + 1) % size = 0

/-- Runs the machine over the bytes from `index` on; `base` is the position from which faults count and `done` the
characters so far in reverse. -/
def decodeFrom (block : Option Nat) (stage : Stage) (base index : Nat) (done : List Char) :
    List UInt8 → Except Utf8Fault (List Char)
  | [] =>
    match stage with
    | .between => .ok done.reverse
    | .inside start lead _ _ _ _ =>
      let base := if block.isSome then start else base
      .error ⟨.unexpectedEnd, lead, start - base, index - 1 - base⟩
  | b :: rest =>
    let base := if block.any (fun size => index % size = 0) then blockBase stage index else base
    match stage with
    | .between =>
      if b.toNat < 0x80 then decodeFrom block .between base (index + 1) (Char.ofNat b.toNat :: done) rest
      else
        match opening? b.toNat with
        | some (code, owed, least, greatest) =>
          decodeFrom block (.inside index b code owed least greatest) base (index + 1) done rest
        | none => .error ⟨.invalidStart, b, index - base, index - base⟩
    | .inside start lead code owed least greatest =>
      if least ≤ b.toNat ∧ b.toNat ≤ greatest then
        let code := code * 64 + (b.toNat - 0x80)
        if owed = 1 then decodeFrom block .between base (index + 1) (Char.ofNat code :: done) rest
        else decodeFrom block (.inside start lead code (owed - 1) 0x80 0xBF) base (index + 1) done rest
      else
        let base := if endsBlock block index rest.isEmpty && opensSurrogate lead b then start else base
        .error ⟨.invalidContinuation, lead, start - base, index - 1 - base⟩

/-- The text of a file that is read whole. -/
def decodeUtf8 (bytes : List UInt8) : Except Utf8Fault (List Char) :=
  decodeFrom none .between 0 0 [] bytes

/-- The text of a file that is read in blocks of the given size. -/
def decodeUtf8Blocks (size : Nat) (bytes : List UInt8) : Except Utf8Fault (List Char) :=
  decodeFrom (some size) .between 0 0 [] bytes

/-- The bytes of a text. -/
def encodeUtf8 (s : String) : List UInt8 :=
  s.toUTF8.toList

end ApiTypes.Text
