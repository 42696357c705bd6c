/-
# The text of a value

A key or a variant that is not text itself is spelled out: `None`, `True`, decimal numbers, dates.  Lists and mappings are
spelled with brackets, and the texts inside them are quoted.
-/
import ApiTypes.Binary64.Decimal
import ApiTypes.Text.Quoted
import ApiTypes.Value.Basic

namespace ApiTypes

namespace Scalar

/-- The text of a scalar that stands alone. -/
def spelling : Scalar → String
  | null => "None"
  | bool b => if b then "True" else "False"
  | int n => toString n
  | float x => x.text
  | text s => s
  | date d => d.text
  | moment m => m.text
  | bytes content => Text.quotedBytes content

@[simp] theorem spelling_text (s : String) : (text s).spelling = s := rfl

/-- The text of a scalar inside a list or a mapping: texts are quoted and dates are spelled by their parts. -/
def innerSpelling : Scalar → String
  | text s => Text.quoted s
  | date d => d.parts
  | moment m => m.parts
  | other => other.spelling

end Scalar

namespace Value

mutual

/-- The text of a value inside a list or a mapping. -/
def innerSpelling : Value → String
  | scalar s => s.innerSpelling
  | list items => "[" ++ ", ".intercalate (itemSpellings items) ++ "]"
  | mapping entries => "\x7b" ++ ", ".intercalate (entrySpellings entries) ++ "\x7d"
  | set [] => "set()"
  | set (first :: rest) => "\x7b" ++ ", ".intercalate ((first :: rest).map Scalar.innerSpelling) ++ "\x7d"

/-- The texts of the items of a list. -/
def itemSpellings : List Value → List String
  | [] => []
  | item :: rest => innerSpelling item :: itemSpellings rest

/-- The texts of the entries of a mapping, each as key, colon and value. -/
def entrySpellings : List (Scalar × Value) → List String
  | [] => []
  | (key, value) :: rest => (key.innerSpelling ++ ": " ++ innerSpelling value) :: entrySpellings rest

end

/-- The text of a value that stands alone. -/
def spelling : Value → String
  | scalar s => s.spelling
  | other => other.innerSpelling

/-- The kind of a value in messages. -/
def kindName : Value → String
  | scalar .null => "NoneType"
  | scalar (.bool _) => "bool"
  | scalar (.int _) => "int"
  | scalar (.float _) => "float"
  | scalar (.text _) => "str"
  | scalar (.date _) => "datetime.date"
  | scalar (.moment _) => "datetime.datetime"
  | scalar (.bytes _) => "bytes"
  | list _ => "list"
  | mapping _ => "dict"
  | set _ => "set"

end Value

end ApiTypes
