/-
# Decimal text of binary numbers

The text of a floating-point number has the fewest decimal digits that read back as the same number, and of those the
digits nearest to it.  The search runs over the grids of one, two, … seventeen digits: on each grid only the two
neighbours of the number are tried, in exact arithmetic.

A number is written positionally when the exponent of its first digit is from `-4` to `15`, and with an exponent of at
least two digits elsewhere.
-/
import ApiTypes.Binary64.Basic

namespace ApiTypes.Binary64

/-! ## Shortest digits -/

/-- A decimal numeral `digits * 10 ^ power`. -/
structure Numeral where
  digits : Nat
  power : Int
  deriving DecidableEq

/-- Four times a positive number and the ends of the interval that rounds to it, as numerators over one denominator.
Below a power of two the numbers lie twice as close. -/
structure Interval where
  low : Nat
  value : Nat
  high : Nat
  denominator : Nat
  closed : Bool

/-- The interval of the reals that round to `m * 2 ^ e`; its ends belong to it when the mantissa is even. -/
def interval (m : Nat) (e : Int) : Interval :=
  let below := if m = Nat.pow 2 52 ∧ minExponent < e then 1 else 2
  let (up, down) := scaleDown 1 1 (-(e - 2))
  ⟨(4 * m - below) * up, 4 * m * up, (4 * m + 2) * up, down, m % 2 = 0⟩

/-- `10 ^ power` as numerator and denominator. -/
def tenPower : Int → Nat × Nat
  | .ofNat p => (Nat.pow 10 p, 1)
  | .negSucc p => (1, Nat.pow 10 (p + 1))

namespace Interval

/-- Whether the numeral lies in the interval. -/
def holds (i : Interval) (numeral : Numeral) : Bool :=
  let (a, b) := tenPower numeral.power
  let x := numeral.digits * a * i.denominator
  if i.closed then i.low * b ≤ x ∧ x ≤ i.high * b else i.low * b < x ∧ x < i.high * b

/-- The exponent of the first decimal digit of the value. -/
def firstDigit (i : Interval) : Int :=
  ((Nat.toDigits 10 (i.value * Nat.pow 10 400 / i.denominator)).length : Int) - 401

/-- The numerals with `n` digits next to the value, the nearer one first and the even one first when both are equally
near. -/
def neighbours (i : Interval) (n : Nat) : List Numeral :=
  let power := i.firstDigit - (n : Int) + 1
  let (a, b) := tenPower power
  let unit := a * i.denominator
  let d := i.value * b / unit
  let r := i.value * b % unit
  let lower : Numeral := ⟨d, power⟩
  let upper : Numeral := ⟨d + 1, power⟩
  if 2 * r < unit ∨ (2 * r = unit ∧ d % 2 = 0) then [lower, upper] else [upper, lower]

/-- The first neighbour that lies in the interval, trying more and more digits. -/
def search (i : Interval) : (tries n : Nat) → Numeral
  | 0, n => ((i.neighbours n).head?).getD ⟨0, 0⟩
  | tries + 1, n =>
    match (i.neighbours n).find? i.holds with
    | some numeral => numeral
    | none => search i tries (n + 1)

end Interval

/-- The numeral with the fewest digits that rounds to `m * 2 ^ e`; seventeen always suffice. -/
def shortest (m : Nat) (e : Int) : Numeral :=
  (interval m e).search 16 1

/-! ## Spelling -/

/-- Drops the zeros at the end of a list of digits, given in reverse. -/
def dropZeros : List Char → List Char
  | '0' :: rest => dropZeros rest
  | digits => digits

/-- The exponent after the letter: a sign and at least two digits. -/
def exponentText (e : Int) : List Char :=
  let digits := Nat.toDigits 10 e.natAbs
  (if e < 0 then '-' else '+') :: (if digits.length < 2 then '0' :: digits else digits)

/-- A positive number with the given digits, the first of which has the exponent `e`. -/
def spell (digits : List Char) (e : Int) : List Char :=
  if e < -4 ∨ 16 ≤ e then
    let fraction := digits.drop 1
    digits.take 1 ++ (if fraction.isEmpty then [] else '.' :: fraction) ++ 'e' :: exponentText e
  else
    match e with
    | .negSucc k => '0' :: '.' :: (List.replicate k '0' ++ digits)
    | .ofNat k =>
      let whole := digits.take (k + 1)
      let fraction := digits.drop (k + 1)
      whole ++ List.replicate (k + 1 - whole.length) '0' ++ '.' :: (if fraction.isEmpty then ['0'] else fraction)

/-- The text of a number: shortest digits, always with a point or an exponent. -/
def text : Binary64 → String
  | .nan => "nan"
  | .infinite negative => if negative then "-inf" else "inf"
  | .finite negative m e =>
    let body :=
      if m = 0 then ['0', '.', '0']
      else
        let numeral := shortest m e
        let digits := Nat.toDigits 10 numeral.digits
        spell (dropZeros digits.reverse).reverse ((digits.length : Int) - 1 + numeral.power)
    String.ofList (if negative then '-' :: body else body)

end ApiTypes.Binary64
