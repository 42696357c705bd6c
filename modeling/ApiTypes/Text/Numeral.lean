/-
# Whole numbers from text

A numeral may have blanks around it, a sign, and single underscores between its digits; in the bases 2, 8 and 16 it may
start with the mark of its base, such as `0x`.  Its decimal digits may be those of any script.

A numeral in base ten with too many digits is not read at all; `digitCount` counts them.
-/
namespace ApiTypes.Text

/-! ## Decimal digits -/

/-- The code points of the digit zero in all scripts of Unicode 14; the other digits follow it. -/
def zeroDigits : List Nat :=
  [
   0x30, 0x660, 0x6F0, 0x7C0, 0x966, 0x9E6, 0xA66, 0xAE6, 0xB66, 0xBE6, 0xC66, 0xCE6, 0xD66, 0xDE6, 0xE50, 0xED0,
   0xF20, 0x1040, 0x1090, 0x17E0, 0x1810, 0x1946, 0x19D0, 0x1A80, 0x1A90, 0x1B50, 0x1BB0, 0x1C40, 0x1C50, 0xA620,
   0xA8D0, 0xA900, 0xA9D0, 0xA9F0, 0xAA50, 0xABF0, 0xFF10, 0x104A0, 0x10D30, 0x11066, 0x110F0, 0x11136, 0x111D0,
   0x112F0, 0x11450, 0x114D0, 0x11650, 0x116C0, 0x11730, 0x118E0, 0x11950, 0x11C50, 0x11D50, 0x11DA0, 0x16A60,
   0x16AC0, 0x16B50, 0x1D7CE, 0x1D7D8, 0x1D7E2, 0x1D7EC, 0x1D7F6, 0x1E140, 0x1E2F0, 0x1E950, 0x1FBF0]

/-- The value of a decimal digit of any script. -/
def decimalDigit? (c : Char) : Option Nat :=
  (zeroDigits.find? fun first => first ≤ c.toNat ∧ c.toNat < first + 10).map fun first => c.toNat - first

/-- The character with a decimal digit of any script written in ASCII. -/
def plainDigit (c : Char) : Char :=
  match decimalDigit? c with
  | some d => Nat.digitChar d
  | none => c

/-! ## Numerals -/

/-- Whether a character is a blank of any script. -/
def isSpace (c : Char) : Bool :=
  let n := c.toNat
  (0x09 ≤ n && n ≤ 0x0D) || (0x1C ≤ n && n ≤ 0x20) || n = 0x85 || n = 0xA0 || n = 0x1680
    || (0x2000 ≤ n && n ≤ 0x200A) || n = 0x2028 || n = 0x2029 || n = 0x202F || n = 0x205F || n = 0x3000

/-- The text without the blanks around it. -/
def trim (s : List Char) : List Char :=
  ((s.dropWhile isSpace).reverse.dropWhile isSpace).reverse

/-- The value of a digit, the letters counting on from ten. -/
def digitValue? (c : Char) : Option Nat :=
  if c.isDigit then some (c.toNat - 48)
  else if 'a' ≤ c ∧ c ≤ 'z' then some (c.toNat - 87)
  else if 'A' ≤ c ∧ c ≤ 'Z' then some (c.toNat - 55)
  else none

/-- Reads the digits that follow on `value`; an underscore needs a digit after it. -/
def readDigits? (base value : Nat) : List Char → Option Nat
  | [] => some value
  | ['_'] => none
  | '_' :: c :: rest =>
    match digitValue? c with
    | some d => if d < base then readDigits? base (value * base + d) rest else none
    | none => none
  | c :: rest =>
    match digitValue? c with
    | some d => if d < base then readDigits? base (value * base + d) rest else none
    | none => none

/-- Reads a numeral without sign: it starts with a digit. -/
def readNat? (base : Nat) : List Char → Option Nat
  | [] => none
  | c :: rest => if c = '_' then none else readDigits? base 0 (c :: rest)

/-- The letter in the mark of a base. -/
def baseMark (base : Nat) : Option Char :=
  if base = 2 then some 'b' else if base = 8 then some 'o' else if base = 16 then some 'x' else none

/-- The numeral without the mark of its base; one underscore may follow the mark. -/
def dropBaseMark (base : Nat) : List Char → List Char
  | '0' :: c :: rest =>
    if baseMark base = some c.toLower then
      match rest with
      | '_' :: digits => digits
      | digits => digits
    else '0' :: c :: rest
  | s => s

/-- The whole number that a text writes in a base. -/
def readInt? (base : Nat) (s : List Char) : Option Int :=
  match (trim s).map plainDigit with
  | '-' :: rest => (readNat? base (dropBaseMark base rest)).map fun n => -(n : Int)
  | '+' :: rest => (readNat? base (dropBaseMark base rest)).map Int.ofNat
  | rest => (readNat? base (dropBaseMark base rest)).map Int.ofNat

/-! ## Length -/

/-- The greatest number of digits that a numeral in base ten may have. -/
def digitLimit : Nat := 4300

/-- The number of digits that a numeral starts with, behind its blanks and its sign. -/
def digitCount (s : List Char) : Nat :=
  let digits (s : List Char) : Nat := (s.takeWhile Char.isDigit).length
  match (trim s).map plainDigit with
  | '-' :: rest => digits rest
  | '+' :: rest => digits rest
  | rest => digits rest

end ApiTypes.Text
