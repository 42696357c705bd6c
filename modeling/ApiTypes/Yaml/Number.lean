/-
# Numbers of YAML

The numbers that scalars write: whole numbers in several bases, numbers with a point, and both in base sixty, where colons
separate the places.  Underscores are passed over.
-/
import ApiTypes.Binary64.Basic
import ApiTypes.Json.Lexeme
import ApiTypes.Text.Numeral
import ApiTypes.Text.Split
import ApiTypes.Yaml.Error

namespace ApiTypes.Yaml

/-- The text without underscores. -/
def dropUnderscores (s : List Char) : List Char :=
  s.filter (· ≠ '_')

/-- Whether a text starts with a minus sign, and the text without its sign. -/
def splitSign : List Char → Bool × List Char
  | '-' :: rest => (true, rest)
  | '+' :: rest => (false, rest)
  | s => (false, s)

/-! ## Whole numbers -/

/-- The whole number that a text writes in a base; only in base ten is the number of digits limited. -/
def wholeNumber (base : Nat) (s : List Char) : Except DatumFault Int :=
  if base = 10 ∧ Text.digitLimit < Text.digitCount s then .error (.digits (Text.digitCount s))
  else
    match Text.readInt? base s with
    | some n => .ok n
    | none => .error (.integer base (String.ofList s))

/-- The number whose places in base sixty are given, the highest first. -/
def sixtyPlaces (value : Int) : List (List Char) → Except DatumFault Int
  | [] => .ok value
  | place :: rest => do
    let n ← wholeNumber 10 place
    sixtyPlaces (value * 60 + n) rest

/-- The whole number that a text without a sign writes. -/
def unsignedNumber : List Char → Except DatumFault Int
  | [] => .error .emptyNumber
  | ['0'] => .ok 0
  | '0' :: 'b' :: rest => wholeNumber 2 rest
  | '0' :: 'x' :: rest => wholeNumber 16 rest
  | '0' :: rest => wholeNumber 8 ('0' :: rest)
  | s => if s.contains ':' then sixtyPlaces 0 (Text.splitOn ':' s) else wholeNumber 10 s

/-- The whole number that a scalar writes. -/
def readInteger (text : String) : Except DatumFault Int :=
  let (negative, s) := splitSign (dropUnderscores text.toList)
  (unsignedNumber s).map fun n => if negative then -n else n

/-! ## Numbers with a point -/

/-- The number that a text without sign and blanks writes: digits with a point among them and an exponent behind. -/
def unsignedFloat? (negative : Bool) (s : List Char) : Option Binary64 :=
  if s = "inf".toList || s = "infinity".toList then some (.infinite negative)
  else if s = "nan".toList then some .nan
  else
    let (whole, rest) := Json.spanDigits s
    let (fraction, rest) := match rest with
      | '.' :: rest => Json.spanDigits rest
      | rest => ([], rest)
    if (whole ++ fraction).isEmpty then none
    else
      let mantissa := Json.ofDigits (whole ++ fraction)
      match rest with
      | [] => some (Binary64.ofDecimal negative mantissa (-(fraction.length : Int)))
      | _ =>
        match Json.exponentPart? rest with
        | some (down, digits, []) =>
          let e : Int := if down then -(Json.ofDigits digits : Int) else Json.ofDigits digits
          some (Binary64.ofDecimal negative mantissa (e - fraction.length))
        | _ => none

/-- The number that a text writes. -/
def floatNumber (s : List Char) : Except DatumFault Binary64 :=
  let (negative, body) := splitSign ((Text.trim s).map Text.plainDigit)
  match unsignedFloat? negative body with
  | some x => .ok x
  | none => .error (.float (String.ofList s))

/-- The numbers that the places of a text write. -/
def floatPlaces : List (List Char) → Except DatumFault (List Binary64)
  | [] => .ok []
  | place :: rest => do
    let x ← floatNumber place
    let others ← floatPlaces rest
    pure (x :: others)

/-- Adds the places in base sixty, the lowest first; `base` is the weight of the next one. -/
def addPlaces (sum : Binary64) (base : Nat) : List Binary64 → Except DatumFault Binary64
  | [] => .ok sum
  | place :: rest =>
    match Binary64.ofNat base with
    | .finite n m e => addPlaces (sum.add (place.mul (.finite n m e))) (base * 60) rest
    | _ => .error .hugeNumber

/-- The number with a point that a scalar writes. -/
def readFloat (text : String) : Except DatumFault Binary64 :=
  match (dropUnderscores text.toList).map Char.toLower with
  | [] => .error .emptyNumber
  | s => do
    let (negative, s) := splitSign s
    let x ←
      if s = ".inf".toList then pure (.infinite false)
      else if s = ".nan".toList then pure .nan
      else if s.contains ':' then do
        let places ← floatPlaces (Text.splitOn ':' s)
        addPlaces .zero 1 places.reverse
      else floatNumber s
    pure (if negative then x.negate else x)

end ApiTypes.Yaml
