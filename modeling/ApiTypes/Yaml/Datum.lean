/-
# Scalars by tag

What the text of a scalar stands for under each tag.
-/
import ApiTypes.Value.Basic
import ApiTypes.Yaml.Number
import ApiTypes.Yaml.Tag

namespace ApiTypes.Yaml

/-! ## Truth values -/

/-- The truth value that a word stands for. -/
def readTruth (text : String) : Except DatumFault Bool :=
  let word := String.ofList (text.toList.map Char.toLower)
  if ["yes", "true", "on"].contains word then .ok true
  else if ["no", "false", "off"].contains word then .ok false
  else .error (.truth word)

/-! ## Dates and moments -/

/-- A day, if it is in the calendar. -/
def checkedDate (year month day : Nat) : Except DatumFault Date :=
  if year = 0 then .error (.year year)
  else if month = 0 ∨ 12 < month then .error .month
  else if day = 0 ∨ daysInMonth year month < day then .error .day
  else .ok ⟨year, month, day⟩

/-- A moment, if its parts are in range; the distance from universal time is looked at first. -/
def checkedMoment (year month day hour minute second microsecond : Nat) (offset : Option Int) :
    Except DatumFault Moment := do
  if let some minutes := offset then
    if minutes ≤ -1440 ∨ 1440 ≤ minutes then throw (.offset minutes)
  let date ← checkedDate year month day
  if 23 < hour then .error .hour
  else if 59 < minute then .error .minute
  else if 59 < second then .error .second
  else .ok ⟨date, hour, minute, second, microsecond, offset⟩

/-- The number that a text starts with, and what follows the character behind it. -/
def numberBefore (s : List Char) : Nat × List Char :=
  let (digits, rest) := Json.spanDigits s
  (Json.ofDigits digits, rest.drop 1)

/-- The millionths of a second that the digits after a point write. -/
def microseconds (digits : List Char) : Nat :=
  Json.ofDigits ((digits ++ List.replicate 6 '0').take 6)

/-- The distance from universal time at the end of a moment. -/
def offsetOf (s : List Char) : Option Int :=
  match s.dropWhile fun c => c = ' ' || c = '\t' with
  | [] => none
  | '-' :: rest =>
    let (hours, rest) := numberBefore rest
    some (-((hours * 60 + (numberBefore rest).1 : Nat) : Int))
  | '+' :: rest =>
    let (hours, rest) := numberBefore rest
    some ((hours * 60 + (numberBefore rest).1 : Nat) : Int)
  | _ => some 0

/-- The date or the moment that a text of that form writes. -/
def readTimestamp (text : String) : Except DatumFault Scalar :=
  let s := Text.dropFinalLineFeed text.toList
  if Matcher.isWhole dayForm s then
    let (year, rest) := numberBefore s
    let (month, rest) := numberBefore rest
    (checkedDate year month (numberBefore rest).1).map Scalar.date
  else if Matcher.isWhole (Matcher.seq [dayForm, timeMark, timeForm]) s then
    let (year, rest) := numberBefore s
    let (month, rest) := numberBefore rest
    let (day, rest) := numberBefore rest
    let (hour, rest) := numberBefore (rest.dropWhile fun c => c = ' ' || c = '\t')
    let (minute, rest) := numberBefore rest
    let (seconds, rest) := Json.spanDigits rest
    let (fraction, rest) := match rest with
      | '.' :: rest => Json.spanDigits rest
      | rest => ([], rest)
    (checkedMoment year month day hour minute (Json.ofDigits seconds) (microseconds fraction) (offsetOf rest)).map
      Scalar.moment
  else .error .timestamp

/-! ## Bytes -/

/-- The value of a character of the alphabet of sixty-four. -/
def sixBits? (c : Char) : Option Nat :=
  if 'A' ≤ c ∧ c ≤ 'Z' then some (c.toNat - 65)
  else if 'a' ≤ c ∧ c ≤ 'z' then some (c.toNat - 71)
  else if c.isDigit then some (c.toNat + 4)
  else if c = '+' then some 62
  else if c = '/' then some 63
  else none

/-- Reads groups of four characters as three bytes; `place` counts the characters of the group, `left` holds the bits that
are still to be used and `pads` counts the signs of padding in a row.  Other characters are passed over, and enough
padding ends the text. -/
def readBytes (done : List UInt8) (place left pads : Nat) : List Char → Option (List UInt8)
  | [] => if place = 0 then some done.reverse else none
  | c :: rest =>
    if c = '=' then
      if 2 ≤ place then
        if 4 ≤ place + (pads + 1) then some done.reverse else readBytes done place left (pads + 1) rest
      else readBytes done place left pads rest
    else
      match sixBits? c with
      | none => readBytes done place left pads rest
      | some bits =>
        if place = 0 then readBytes done 1 bits 0 rest
        else if place = 1 then readBytes (UInt8.ofNat (left * 4 + bits / 16) :: done) 2 (bits % 16) 0 rest
        else if place = 2 then readBytes (UInt8.ofNat (left * 16 + bits / 4) :: done) 3 (bits % 4) 0 rest
        else readBytes (UInt8.ofNat (left * 64 + bits) :: done) 0 0 0 rest

/-- The bytes that a text writes; all its characters are ASCII. -/
def readBinary (text : String) : Except Error Scalar :=
  if text.toList.all (fun c => c.toNat < 0x80) then
    match readBytes [] 0 0 0 text.toList with
    | some bytes => .ok (.bytes bytes)
    | none => .error (.malformed .binary)
  else .error (.malformed .binary)

/-! ## Scalars -/

/-- What a text stands for under a tag; tags of collections and unknown tags have no scalars. -/
def readDatum (tag : Tag) (text : String) : Except Error Scalar :=
  match tag with
  | .null => .ok .null
  | .text => .ok (.text text)
  | .bool => ((readTruth text).map Scalar.bool).mapError .datum
  | .int => ((readInteger text).map Scalar.int).mapError .datum
  | .float => ((readFloat text).map Scalar.float).mapError .datum
  | .timestamp => (readTimestamp text).mapError .datum
  | .binary => readBinary text
  | .sequence | .mapping | .set | .pairs => .error (.malformed .wrongNode)
  | .merge | .value | .unknown => .error (.malformed .unknownTag)

end ApiTypes.Yaml
