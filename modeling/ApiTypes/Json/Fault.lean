/-
# Faults in JSON text

Why a text is no JSON, and where.  A fault is noted with the number of characters that are left behind it, which is what a
reader knows without counting; the position from the start follows from the length of the text.

Two causes stand apart: a whole number of too many digits is no fault of the text, and half of a pair of codes writes what
no text holds.
-/
import ApiTypes.Text.Lines
import ApiTypes.Value.Basic

namespace ApiTypes.Json

/-- Why a text is no JSON. -/
inductive Cause
  | byteOrderMark
  | expectingValue
  | expectingName
  | expectingColon
  | expectingComma
  | extraData
  | unterminatedText
  | controlCharacter
  | badEscape
  | badCodeEscape
  | longNumber (digits : Nat)
  | unsupported (what : Unsupported)
  deriving DecidableEq

/-- The wording of a cause. -/
def Cause.message : Cause → String
  | byteOrderMark => "Unexpected UTF-8 BOM (decode using utf-8-sig)"
  | expectingValue => "Expecting value"
  | expectingName => "Expecting property name enclosed in double quotes"
  | expectingColon => "Expecting ':' delimiter"
  | expectingComma => "Expecting ',' delimiter"
  | extraData => "Extra data"
  | unterminatedText => "Unterminated string starting at"
  | controlCharacter => "Invalid control character at"
  | badEscape => "Invalid \\escape"
  | badCodeEscape => "Invalid \\uXXXX escape"
  | longNumber digits => "Number of " ++ digits.repr ++ " digits"
  | unsupported _ => "Not supported"

/-- A cause with the number of characters from the fault to the end of the text. -/
structure Fault where
  cause : Cause
  left : Nat
  deriving DecidableEq

/-- A cause with its position in the text. -/
structure Error where
  cause : Cause
  position : Text.Position
  deriving DecidableEq

/-- The message of an error. -/
def Error.message (e : Error) : String :=
  e.cause.message ++ ": " ++ e.position.text

/-- The fault with its position in the text that was read. -/
def Fault.locate (s : List Char) (f : Fault) : Error :=
  ⟨f.cause, Text.positionAt s (s.length - f.left)⟩

end ApiTypes.Json
