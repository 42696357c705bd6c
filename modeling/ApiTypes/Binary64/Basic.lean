/-
# Binary floating-point numbers

The numbers of the 64-bit binary format, written as sign, mantissa and power of two, and the rounding of an exact
quotient to the nearest of them.  Sums, products and decimal numerals are computed exactly first and rounded once.

A finite number is kept in its one canonical form: the mantissa is below `2 ^ 53`, the exponent at least `-1074`, and
the mantissa is at least `2 ^ 52` unless the exponent is `-1074`.
-/
namespace ApiTypes

/-- A number of the 64-bit binary format; `finite n m e` is `m * 2 ^ e`, negated when `n` holds. -/
inductive Binary64
  | nan
  | infinite (negative : Bool)
  | finite (negative : Bool) (mantissa : Nat) (exponent : Int)
  deriving DecidableEq

namespace Binary64

/-! ## Rounding -/

/-- The whole number nearest to `n / d`, an exact half going to the even neighbour. -/
def roundQuotient (n d : Nat) : Nat :=
  let q := n / d
  let r := n % d
  if 2 * r < d then q else if d < 2 * r then q + 1 else if q % 2 = 0 then q else q + 1

/-- The least exponent of a finite number. -/
def minExponent : Int := -1074

/-- The greatest exponent of a finite number. -/
def maxExponent : Int := 971

/-- `n / d` divided by `2 ^ x`, as numerator and denominator. -/
def scaleDown (n d : Nat) : Int → Nat × Nat
  | .ofNat x => (n, d * Nat.pow 2 x)
  | .negSucc x => (n * Nat.pow 2 (x + 1), d)

/-- The exponent of the unit in the last place of the positive number `n / d`: the mantissa gets 53 bits, or fewer
at the least exponent. -/
def unitExponent (n d : Nat) : Int :=
  let x : Int := (n.log2 : Int) - (d.log2 : Int) - 52
  let (a, b) := scaleDown n d x
  max minExponent (if a < b * Nat.pow 2 52 then x - 1 else x)

/-- The number nearest to `n / d` for a positive `d`, an exact half going to the even mantissa and a number beyond the
range to infinity. -/
def nearest (negative : Bool) (n d : Nat) : Binary64 :=
  if n = 0 then .finite negative 0 minExponent
  else
    let x := unitExponent n d
    let (a, b) := scaleDown n d x
    let m := roundQuotient a b
    let (m, x) := if m = Nat.pow 2 53 then (Nat.pow 2 52, x + 1) else (m, x)
    if maxExponent < x then .infinite negative else .finite negative m x

/-- The positive zero. -/
def zero : Binary64 := .finite false 0 minExponent

/-- The number nearest to `digits * 10 ^ power`.  Powers far outside the range are decided without computing them. -/
def ofDecimal (negative : Bool) (digits : Nat) (power : Int) : Binary64 :=
  let size : Int := (Nat.toDigits 10 digits).length + power
  if digits = 0 ∨ size < -330 then .finite negative 0 minExponent
  else if 330 < size then .infinite negative
  else
    match power with
    | .ofNat p => nearest negative (digits * Nat.pow 10 p) 1
    | .negSucc p => nearest negative digits (Nat.pow 10 (p + 1))

/-! ## Sign, comparison, sum and product -/

/-- The number with the other sign. -/
def negate : Binary64 → Binary64
  | .nan => .nan
  | .infinite n => .infinite (!n)
  | .finite n m e => .finite (!n) m e

/-- Whether the number carries a minus sign. -/
def isNegative : Binary64 → Bool
  | .nan => false
  | .infinite n => n
  | .finite n _ _ => n

/-- Whether the number is zero, of either sign. -/
def isZero : Binary64 → Bool
  | .finite _ m _ => m = 0
  | _ => false

/-- Whether two numbers are one key: equal numbers, the two zeros, or two that are no numbers. -/
def sameKey (x y : Binary64) : Bool :=
  x = y || (x.isZero && y.isZero)

/-- Whether the number is exactly the given integer. -/
def equalsInt (x : Binary64) (n : Int) : Bool :=
  match x with
  | .finite negative m e =>
    let (a, b) := scaleDown m 1 (-e)
    decide ((if negative then -(a : Int) else (a : Int)) = n * (b : Int))
  | _ => false

/-- The signed mantissa of a finite number when it is written with the smaller exponent `least`. -/
def signedMantissa (negative : Bool) (m : Nat) (e least : Int) : Int :=
  let a := m * Nat.pow 2 (e - least).toNat
  if negative then -(a : Int) else (a : Int)

/-- The number nearest to `s * 2 ^ e`; `zeroSign` is the sign of an exact zero. -/
def ofScaled (zeroSign : Bool) (s e : Int) : Binary64 :=
  let negative := if s = 0 then zeroSign else decide (s < 0)
  let (a, b) := scaleDown s.natAbs 1 (-e)
  nearest negative a b

/-- The rounded sum. -/
def add : Binary64 → Binary64 → Binary64
  | .nan, _ => .nan
  | _, .nan => .nan
  | .infinite n, .infinite k => if n = k then .infinite n else .nan
  | .infinite n, _ => .infinite n
  | _, .infinite n => .infinite n
  | .finite n m e, .finite k l f =>
    let least := min e f
    ofScaled (n && k) (signedMantissa n m e least + signedMantissa k l f least) least

/-- The rounded product. -/
def mul : Binary64 → Binary64 → Binary64
  | .nan, _ => .nan
  | _, .nan => .nan
  | .infinite n, y => if y.isZero then .nan else .infinite (xor n y.isNegative)
  | x, .infinite n => if x.isZero then .nan else .infinite (xor n x.isNegative)
  | .finite n m e, .finite k l f =>
    let s : Int := ((m * l : Nat) : Int)
    ofScaled (xor n k) (if xor n k then -s else s) (e + f)

/-- The number nearest to a whole number. -/
def ofNat (n : Nat) : Binary64 := nearest false n 1

end Binary64

end ApiTypes
