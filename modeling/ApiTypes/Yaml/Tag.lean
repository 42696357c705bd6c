/-
# Tags

The tag of a node says what its content stands for.  A scalar without quotes and without a tag gets one from its form:
truth values, numbers, dates, the absence of a value; what has none of these forms is text.

The forms are given as matchers: a matcher takes a text and gives what is left after it, so that forms are put together
by running matchers one after the other.
-/
import ApiTypes.Text.Lines
import ApiTypes.Yaml.Error

namespace ApiTypes.Yaml

/-- What the content of a node stands for. -/
inductive Tag
  | null
  | bool
  | int
  | float
  | timestamp
  | binary
  | text
  | sequence
  | mapping
  | set
  | pairs
  | merge
  | value
  | unknown
  deriving DecidableEq

/-- The beginning of the names of the tags that every document knows. -/
def tagSpace : String := "tag:yaml.org,2002:"

/-- The tags that are known by name. -/
def knownTags : List (String × Tag) :=
  [("null", .null), ("bool", .bool), ("int", .int), ("float", .float), ("timestamp", .timestamp), ("binary", .binary),
    ("str", .text), ("seq", .sequence), ("map", .mapping), ("set", .set), ("omap", .pairs), ("pairs", .pairs),
    ("merge", .merge), ("value", .value)]

/-- The tag of a name. -/
def Tag.ofUri (uri : String) : Tag :=
  ((knownTags.map fun entry => (tagSpace ++ entry.1, entry.2)).lookup uri).getD .unknown

/-! ## Matchers -/

/-- What is left of a text behind a part of it, if it starts with such a part. -/
abbrev Matcher := List Char → Option (List Char)

namespace Matcher

/-- One character that satisfies a test. -/
def one (p : Char → Bool) : Matcher
  | [] => none
  | c :: rest => if p c then some rest else none

/-- As many characters as satisfy a test. -/
def many (p : Char → Bool) : Matcher :=
  fun s => some (s.dropWhile p)

/-- At least one character that satisfies a test, and as many as do. -/
def some1 (p : Char → Bool) : Matcher :=
  fun s => (one p s).bind (many p)

/-- A given character. -/
def char (c : Char) : Matcher := one (· = c)

/-- One part after the other. -/
def seq (parts : List Matcher) : Matcher :=
  fun s => parts.foldl (fun left part => left.bind part) (some s)

/-- A part that may be missing. -/
def optional (part : Matcher) : Matcher :=
  fun s => some ((part s).getD s)

/-- The first of some parts that is there. -/
def first (parts : List Matcher) : Matcher :=
  fun s => parts.findSome? fun part => part s

/-- A part as often as it is there, at most `n` times. -/
def upTo (n : Nat) (part : Matcher) : Matcher :=
  fun s =>
    match n with
    | 0 => some s
    | n + 1 =>
      match part s with
      | some rest => upTo n part rest
      | none => some s

/-- Whether a part is the whole of a text. -/
def isWhole (part : Matcher) (s : List Char) : Bool :=
  part s = some []

end Matcher

open Matcher

/-! ## Forms of scalars -/

/-- A digit. -/
def digit : Matcher := one Char.isDigit

/-- A sign, if there is one. -/
def sign : Matcher := optional (one fun c => c = '-' || c = '+')

/-- A digit or an underscore. -/
def isDigitOrUnderscore (c : Char) : Bool := c.isDigit || c = '_'

/-- A digit and further digits with underscores between. -/
def digits : Matcher := seq [digit, many isDigitOrUnderscore]

/-- The exponent of a number, with its sign. -/
def exponent : Matcher :=
  optional (seq [one fun c => c = 'e' || c = 'E', one fun c => c = '-' || c = '+', some1 Char.isDigit])

/-- A colon and the digits of one place in base sixty. -/
def sixtieth : Matcher :=
  first [seq [char ':', one fun c => '0' ≤ c && c ≤ '5', digit], seq [char ':', digit]]

/-- At least one further place in base sixty. -/
def sixtieths : Matcher :=
  fun s => (sixtieth s).bind (upTo s.length sixtieth)

/-- Whether a text is one of the given words in small letters, with a capital or in capitals. -/
def isWordOf (words : List String) (s : List Char) : Bool :=
  words.any fun word =>
    let w := word.toList
    s = w || s = w.map Char.toUpper || s = (match w with | [] => [] | c :: rest => c.toUpper :: rest)

/-- The form of a truth value. -/
def isBool (s : List Char) : Bool := isWordOf ["yes", "no", "true", "false", "on", "off"] s

/-- The form of an absent value. -/
def isNull (s : List Char) : Bool := s = [] || s = ['~'] || isWordOf ["null"] s

/-- The form of a whole number: binary, octal, decimal, hexadecimal or in base sixty. -/
def isInt (s : List Char) : Bool :=
  (seq [sign, char '0', char 'b', some1 fun c => c = '0' || c = '1' || c = '_']).isWhole s
    || (seq [sign, char '0', some1 fun c => ('0' ≤ c && c ≤ '7') || c = '_']).isWhole s
    || (seq [sign, char '0']).isWhole s
    || (seq [sign, one fun c => c.isDigit && c ≠ '0', many isDigitOrUnderscore]).isWhole s
    || (seq [sign, char '0', char 'x',
        some1 fun c => c.isDigit || ('a' ≤ c && c ≤ 'f') || ('A' ≤ c && c ≤ 'F') || c = '_']).isWhole s
    || (seq [sign, one fun c => c.isDigit && c ≠ '0', many isDigitOrUnderscore, sixtieths]).isWhole s

/-- The form of a number with a point: decimal, in base sixty, infinite or no number. -/
def isFloat (s : List Char) : Bool :=
  (seq [sign, digits, char '.', many isDigitOrUnderscore, exponent]).isWhole s
    || (seq [char '.', digits, exponent]).isWhole s
    || (seq [sign, digits, sixtieths, char '.', many isDigitOrUnderscore]).isWhole s
    || ((seq [sign, char '.']) s).any (isWordOf ["inf"])
    || ((char '.') s).any fun rest => rest = "nan".toList || rest = "NaN".toList || rest = "NAN".toList

/-- One or two digits. -/
def shortNumber : Matcher := seq [digit, optional digit]

/-- A day: four digits, one or two, and one or two. -/
def dayForm : Matcher :=
  seq [digit, digit, digit, digit, char '-', shortNumber, char '-', shortNumber]

/-- A time of day with what may follow it. -/
def timeForm : Matcher :=
  seq [shortNumber, char ':', digit, digit, char ':', digit, digit, optional (seq [char '.', many Char.isDigit]),
    optional (seq [many fun c => c = ' ' || c = '\t',
      first [char 'Z', seq [one fun c => c = '-' || c = '+', shortNumber, optional (seq [char ':', digit, digit])]]])]

/-- What separates a day from a time: the letter `T`, or blanks. -/
def timeMark : Matcher :=
  first [one fun c => c = 'T' || c = 't', some1 fun c => c = ' ' || c = '\t']

/-- The form of a date or of a moment; a date alone has two digits for month and day. -/
def isTimestamp (s : List Char) : Bool :=
  (seq [digit, digit, digit, digit, char '-', digit, digit, char '-', digit, digit]).isWhole s
    || (seq [dayForm, timeMark, timeForm]).isWhole s

/-- The tag that a scalar has by its form; a line feed at its end does not count, but alone it is a text. -/
def Tag.ofForm (text : String) : Tag :=
  let s := Text.dropFinalLineFeed text.toList
  if text = "\n" then .text
  else if isBool s then .bool
  else if isFloat s then .float
  else if isInt s then .int
  else if s = ['<', '<'] then .merge
  else if isNull s then .null
  else if isTimestamp s then .timestamp
  else if s = ['='] then .value
  else .text

end ApiTypes.Yaml
