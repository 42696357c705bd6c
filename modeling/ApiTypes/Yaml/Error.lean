/-
# Faults in YAML text

A text may break the rules of YAML (`Fault`), or it may follow them and hold a scalar that its tag does not allow
(`DatumFault`), such as a date that is not in the calendar.  The first kind is reported in one way, the second by its
own wording.  Apart from both stands a text that writes what no value holds.
-/
import ApiTypes.Text.Numeral
import ApiTypes.Text.Quoted
import ApiTypes.Value.Basic

namespace ApiTypes.Yaml

/-- How a text breaks the rules of YAML. -/
inductive Fault
  | unprintable
  | strayCharacter
  | misplacedIndicator
  | keyWithoutColon
  | directive
  | anchorName
  | tagText
  | blockHeader
  | escape
  | openQuotes
  | unexpectedToken
  | severalDocuments
  | undefinedAlias
  | repeatedAnchor
  | undefinedHandle
  | unknownTag
  | wrongNode
  | collectionAsKey
  | merge
  | binary
  deriving DecidableEq

/-- How a scalar misses the form that its tag asks for.  A reader other than that of this library may stop at a scalar for
a reason of its own. -/
inductive DatumFault
  | code
  | hugeCode
  | digits (count : Nat)
  | integer (base : Nat) (text : String)
  | float (text : String)
  | emptyNumber
  | hugeNumber
  | truth (text : String)
  | timestamp
  | noText
  | year (year : Nat)
  | month
  | day
  | hour
  | minute
  | second
  | offset (minutes : Int)
  | other (message : String)
  deriving DecidableEq

/-- Why a text has no value. -/
inductive Error
  | malformed (fault : Fault)
  | datum (fault : DatumFault)
  | unsupported (what : Unsupported)
  deriving DecidableEq

/-- The wording of a fault in a scalar. -/
def DatumFault.message : DatumFault → String
  | code => "chr() arg not in range(0x110000)"
  | hugeCode => "Python int too large to convert to C int"
  | digits count =>
    "Exceeds the limit (" ++ Text.digitLimit.repr ++ " digits) for integer string conversion: value has "
      ++ count.repr ++ " digits; use sys.set_int_max_str_digits() to increase the limit"
  | integer base text => "invalid literal for int() with base " ++ base.repr ++ ": " ++ Text.quoted text
  | float text => "could not convert string to float: " ++ Text.quoted text
  | emptyNumber => "string index out of range"
  | hugeNumber => "int too large to convert to float"
  | truth text => Text.quoted text
  | timestamp => "'NoneType' object has no attribute 'groupdict'"
  | noText => "expected string or bytes-like object, got 'list'"
  | year y => "year " ++ y.repr ++ " is out of range"
  | month => "month must be in 1..12"
  | day => "day is out of range for month"
  | hour => "hour must be in 0..23"
  | minute => "minute must be in 0..59"
  | second => "second must be in 0..59"
  | offset minutes =>
    "offset must be a timedelta strictly between -timedelta(hours=24) and timedelta(hours=24), not "
      ++ durationParts minutes ++ "."
  | other message => message

end ApiTypes.Yaml
