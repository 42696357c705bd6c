/-
# Dates and moments

Days of the calendar and moments of a day, as a document may hold them.  A moment may carry its distance from universal
time; two such moments are the same when they name the same instant.
-/
namespace ApiTypes

/-- A day of the calendar. -/
structure Date where
  year : Nat
  month : Nat
  day : Nat
  deriving DecidableEq

/-- A moment of a day, with its distance from universal time in minutes if that is known. -/
structure Moment where
  date : Date
  hour : Nat
  minute : Nat
  second : Nat
  microsecond : Nat
  offset : Option Int
  deriving DecidableEq

/-! ## The calendar -/

/-- Whether a year has a 29th of February. -/
def isLeapYear (year : Nat) : Bool :=
  year % 4 = 0 ∧ (year % 100 ≠ 0 ∨ year % 400 = 0)

/-- The number of days of a month. -/
def daysInMonth (year month : Nat) : Nat :=
  if month = 2 then (if isLeapYear year then 29 else 28)
  else if month = 4 ∨ month = 6 ∨ month = 9 ∨ month = 11 then 30
  else 31

namespace Date

/-- The number of days before the given day, counted from the first day of the year 1. -/
def dayNumber (d : Date) : Nat :=
  let y := d.year - 1
  let before := (List.range (d.month - 1)).foldl (fun days m => days + daysInMonth d.year (m + 1)) 0
  y * 365 + y / 4 - y / 100 + y / 400 + before + (d.day - 1)

end Date

/-- A number in decimal with at least `width` digits. -/
def padded (width n : Nat) : String :=
  let digits := Nat.toDigits 10 n
  String.ofList (List.replicate (width - digits.length) '0' ++ digits)

/-- A day as year, month and day. -/
def Date.text (d : Date) : String :=
  padded 4 d.year ++ "-" ++ padded 2 d.month ++ "-" ++ padded 2 d.day

namespace Moment

/-- The seconds since the first day of the year 1 in universal time, for a moment with a known distance. -/
def instant? (m : Moment) : Option Int :=
  m.offset.map fun minutes =>
    (m.date.dayNumber * 86400 + m.hour * 3600 + m.minute * 60 + m.second : Nat) - minutes * 60

/-- Whether two moments are the same: the same instant, or the same reading when no distance is known. -/
def same (a b : Moment) : Bool :=
  match a.instant?, b.instant? with
  | some s, some t => s = t && a.microsecond = b.microsecond
  | none, none => a = b
  | _, _ => false

/-- A distance from universal time as sign, hours and minutes. -/
def offsetText (minutes : Int) : String :=
  (if minutes < 0 then "-" else "+") ++ padded 2 (minutes.natAbs / 60) ++ ":" ++ padded 2 (minutes.natAbs % 60)

/-- A moment as date, time and distance; a fraction of a second is shown only when there is one. -/
def text (m : Moment) : String :=
  m.date.text ++ " " ++ padded 2 m.hour ++ ":" ++ padded 2 m.minute ++ ":" ++ padded 2 m.second
    ++ (if m.microsecond = 0 then "" else "." ++ padded 6 m.microsecond)
    ++ (match m.offset with | some minutes => offsetText minutes | none => "")

end Moment

/-! ## Spelling by parts

Inside lists and mappings a date is spelled by its parts instead. -/

/-- The days and seconds of a distance, the days rounded down. -/
def durationParts (minutes : Int) : String :=
  let days := minutes / 1440
  let seconds := (minutes % 1440) * 60
  let shown := (if days = 0 then [] else ["days=" ++ toString days])
    ++ (if seconds = 0 then [] else ["seconds=" ++ toString seconds])
  "datetime.timedelta(" ++ (if shown.isEmpty then "0" else ", ".intercalate shown) ++ ")"

/-- A day spelled by its parts. -/
def Date.parts (d : Date) : String :=
  "datetime.date(" ++ ", ".intercalate [d.year.repr, d.month.repr, d.day.repr] ++ ")"

/-- A moment spelled by its parts; seconds and microseconds at the end are left out when they are zero. -/
def Moment.parts (m : Moment) : String :=
  let clock := [m.date.year, m.date.month, m.date.day, m.hour, m.minute]
    ++ (if m.second = 0 ∧ m.microsecond = 0 then [] else [m.second])
    ++ (if m.microsecond = 0 then [] else [m.microsecond])
  let zone := match m.offset with
    | none => []
    | some minutes =>
      if minutes = 0 then ["tzinfo=datetime.timezone.utc"]
      else ["tzinfo=datetime.timezone(" ++ durationParts minutes ++ ")"]
  "datetime.datetime(" ++ ", ".intercalate (clock.map Nat.repr ++ zone) ++ ")"

end ApiTypes
