/-
# Words, numbers and texts of JSON

The single data of JSON text.  Each reader takes what is left of the text and gives the datum with what is left after it.

A number with a point or an exponent is a binary number, any other a whole number of any size.  A point or an exponent
letter without digits behind it is not part of the number.  A text has no place for half of a pair of codes.
-/
import ApiTypes.Json.Fault

namespace ApiTypes.Json

/-- Whether a character may stand between the parts of JSON text. -/
def isBlank (c : Char) : Bool :=
  c = ' ' ∨ c = '\t' ∨ c = '\n' ∨ c = '\r'

/-- What is left after the blanks. -/
def skipBlanks (s : List Char) : List Char :=
  s.dropWhile isBlank

/-! ## Words -/

/-- The words that stand for a datum. -/
def words : List (List Char × Scalar) :=
  [("null".toList, .null), ("true".toList, .bool true), ("false".toList, .bool false),
    ("NaN".toList, .float .nan), ("Infinity".toList, .float (.infinite false)),
    ("-Infinity".toList, .float (.infinite true))]

/-- The datum of the word that the text starts with. -/
def readWord? (s : List Char) : Option (Scalar × List Char) :=
  words.findSome? fun (word, datum) => if word.isPrefixOf s then some (datum, s.drop word.length) else none

/-! ## Numbers -/

/-- The digits that the text starts with, and the rest. -/
def spanDigits (s : List Char) : List Char × List Char :=
  (s.takeWhile Char.isDigit, s.dropWhile Char.isDigit)

/-- The digits of the whole part: a zero alone, or digits that do not start with one. -/
def wholePart? : List Char → Option (List Char × List Char)
  | '0' :: rest => some (['0'], rest)
  | s => if (spanDigits s).1.isEmpty then none else some (spanDigits s)

/-- The digits of the fraction, if a point with digits behind it follows. -/
def fractionPart? : List Char → Option (List Char × List Char)
  | '.' :: rest => if (spanDigits rest).1.isEmpty then none else some (spanDigits rest)
  | _ => none

/-- The sign and the digits of the exponent, if a letter with digits behind it follows. -/
def exponentPart? : List Char → Option (Bool × List Char × List Char)
  | c :: rest =>
    if c = 'e' ∨ c = 'E' then
      let (negative, digits) := match rest with
        | '-' :: digits => (true, digits)
        | '+' :: digits => (false, digits)
        | digits => (false, digits)
      if (spanDigits digits).1.isEmpty then none else some (negative, spanDigits digits)
    else none
  | [] => none

/-- The number that a list of digits writes. -/
def ofDigits (digits : List Char) : Nat :=
  Nat.ofDigitChars 10 digits 0

/-- The number that the text starts with, without its sign. -/
def readUnsigned? (negative : Bool) (s : List Char) : Option (Scalar × List Char) :=
  (wholePart? s).map fun (whole, rest) =>
    let fraction := (fractionPart? rest).map Prod.fst
    let rest := ((fractionPart? rest).map Prod.snd).getD rest
    let fractionDigits := fraction.getD []
    match exponentPart? rest with
    | some (down, digits, rest) =>
      let e : Int := if down then -(ofDigits digits : Int) else ofDigits digits
      (.float (Binary64.ofDecimal negative (ofDigits (whole ++ fractionDigits)) (e - fractionDigits.length)), rest)
    | none =>
      if fraction.isSome then
        (.float (Binary64.ofDecimal negative (ofDigits (whole ++ fractionDigits)) (-(fractionDigits.length : Int))),
          rest)
      else (.int (if negative then -(ofDigits whole : Int) else ofDigits whole), rest)

/-- The number that the text starts with. -/
def readNumber? : List Char → Option (Scalar × List Char)
  | '-' :: rest => readUnsigned? true rest
  | s => readUnsigned? false s

/-! ## Texts -/

/-- The value of a hexadecimal digit. -/
def hexValue? (c : Char) : Option Nat :=
  if c.isDigit then some (c.toNat - 48)
  else if 'a' ≤ c ∧ c ≤ 'f' then some (c.toNat - 87)
  else if 'A' ≤ c ∧ c ≤ 'F' then some (c.toNat - 55)
  else none

/-- The number that hexadecimal digits write. -/
def hexNumber? (digits : List Char) : Option Nat :=
  digits.foldl (fun n c => n.bind fun n => (hexValue? c).map (n * 16 + ·)) (some 0)

/-- The character of a one-letter escape. -/
def escaped? (c : Char) : Option Char :=
  if c = '\x22' ∨ c = '\\' ∨ c = '/' then some c
  else if c = 'b' then some '\x08'
  else if c = 'f' then some '\x0c'
  else if c = 'n' then some '\n'
  else if c = 'r' then some '\r'
  else if c = 't' then some '\t'
  else none

/-- The character of a pair of codes, the first from U+D800 on and the second from U+DC00 on. -/
def joinPair? (high low : Nat) : Option Char :=
  if 0xD800 ≤ high ∧ high < 0xDC00 ∧ 0xDC00 ≤ low ∧ low < 0xE000 then
    some (Char.ofNat (0x10000 + (high - 0xD800) * 0x400 + (low - 0xDC00)))
  else none

/-- Whether a code is the first half of a pair. -/
def isHighCode (code : Nat) : Bool :=
  0xD800 ≤ code ∧ code < 0xDC00

/-- The character of a single code; half of a pair has none. -/
def charOfCode? (code : Nat) : Option Char :=
  if 0xD800 ≤ code ∧ code < 0xE000 then none else some (Char.ofNat code)

/-- Reads a text up to its closing quote; `opening` is the number of characters left from its opening quote on and
`done` the characters so far in reverse. -/
def readText (opening : Nat) (done : List Char) : List Char → Except Fault (String × List Char)
  | [] => .error ⟨.unterminatedText, opening⟩
  | '\x22' :: rest => .ok (String.ofList done.reverse, rest)
  | ['\\'] => .error ⟨.unterminatedText, opening⟩
  | '\\' :: 'u' :: a :: b :: c :: d :: e :: rest =>
    match hexNumber? [a, b, c, d] with
    | none => .error ⟨.badCodeEscape, rest.length + 6⟩
    | some code =>
      match isHighCode code, e, rest with
      | true, '\\', 'u' :: f :: g :: h :: i :: j :: rest =>
        match hexNumber? [f, g, h, i] with
        | none => .error ⟨.badCodeEscape, rest.length + 6⟩
        | some low =>
          match joinPair? code low with
          | some joined => readText opening (joined :: done) (j :: rest)
          | none => .error ⟨.unsupported .halfPair, rest.length + 12⟩
      | _, e, rest =>
        match charOfCode? code with
        | some c => readText opening (c :: done) (e :: rest)
        | none => .error ⟨.unsupported .halfPair, rest.length + 6⟩
  | '\\' :: 'u' :: rest => .error ⟨.badCodeEscape, rest.length + 1⟩
  | '\\' :: c :: rest =>
    match escaped? c with
    | some c => readText opening (c :: done) rest
    | none => .error ⟨.badEscape, rest.length + 2⟩
  | c :: rest =>
    if c.toNat < 0x20 then .error ⟨.controlCharacter, rest.length + 1⟩ else readText opening (c :: done) rest

end ApiTypes.Json
