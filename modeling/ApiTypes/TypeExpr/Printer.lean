/-
# The text of types

How types are written.  A literal stands in single quotes, with backslash and single quote escaped; a choice is joined
by bars; a list adds brackets, and a choice of several literals is first put into parentheses, because brackets bind more
tightly than bars.  An object type has one field a line.

A declared name is written behind a qualifier, so that it can be looked up in an imported module.

The type of a schema is written straight from the schema (`Schema.typeText`); this is the text of its type expression.
-/
import ApiTypes.TypeExpr.Basic

namespace ApiTypes

namespace TypeText

/-! ## Pieces -/

/-- A character inside a literal: backslash and single quote are escaped. -/
def literalChar (c : Char) : List Char :=
  if c = '\\' ∨ c = '\x27' then ['\\', c] else [c]

/-- A text as a literal in single quotes. -/
def literal (value : String) : String :=
  String.ofList ('\x27' :: value.toList.flatMap literalChar ++ ['\x27'])

@[simp] theorem toList_literal (value : String) :
    (literal value).toList = '\x27' :: value.toList.flatMap literalChar ++ ['\x27'] := by
  simp [literal]

/-- A choice of types. -/
def union (types : List String) : String := " | ".intercalate types

/-- A type that is all of the given ones at once. -/
def intersection (types : List String) : String := " & ".intercalate types

/-- A list of items of a type; a compound item type is put into parentheses. -/
def arrayOf (compound : Bool) (item : String) : String :=
  if compound then "(" ++ item ++ ")[]" else item ++ "[]"

/-- A field of an object type; a question mark says that the field may be missing. -/
def signature (name : String) (required : Bool) (type : String) : String :=
  name ++ (if required then "" else "?") ++ ": " ++ type

/-- An object type inside another type, from the texts of its fields. -/
def inlineObject (signatures : List String) : String :=
  "\x7b\n  " ++ ";\n  ".intercalate signatures ++ "\n\x7d"

end TypeText

namespace TypeExpr

/-! ## Types -/

/-- Whether a type is written as several alternatives. -/
def isChoice : TypeExpr → Bool
  | literals variants => 1 < variants.length
  | _ => false

mutual

/-- The text of a type; declared names stand behind the qualifier. -/
def render (qualifier : String) : TypeExpr → String
  | any => "any"
  | string => "string"
  | number => "number"
  | boolean => "boolean"
  | openRecord => "Record<string, any>"
  | named name => qualifier ++ name
  | literals variants => TypeText.union (variants.map TypeText.literal)
  | array item => TypeText.arrayOf item.isChoice (render qualifier item)
  | object fields => TypeText.inlineObject (fieldTexts qualifier fields)

/-- The texts of the fields of an object type. -/
def fieldTexts (qualifier : String) : List (String × Bool × TypeExpr) → List String
  | [] => []
  | (name, required, type) :: rest =>
    TypeText.signature name required (render qualifier type) :: fieldTexts qualifier rest

end

end TypeExpr

/-! ## Schemas -/

/-- The text of the type of a single datum. -/
def PrimitiveKind.typeText : PrimitiveKind → String
  | string => "string"
  | integer => "number"
  | number => "number"
  | boolean => "boolean"

namespace Schema

/-- Whether a schema is a closed choice of several variants. -/
def isChoice : Schema → Bool
  | enumeration variants _ _ => 1 < variants.length
  | _ => false

mutual

/-- The text of the type of a schema; pointers are written as the declared names behind the qualifier. -/
def typeText (qualifier : String) : Schema → String
  | reference pointer _ => qualifier ++ Name.cleanName (Name.lastSegment pointer)
  | array items _ => TypeText.arrayOf items.isChoice (typeText qualifier items)
  | enumeration variants _ _ => TypeText.union (variants.map TypeText.literal)
  | openObject _ _ => "Record<string, any>"
  | object properties required _ => TypeText.inlineObject (signatures qualifier required properties)
  | primitive kind _ => kind.typeText
  | composite _ _ _ => "any"
  | unstructured _ => "any"

/-- The texts of the properties of an object. -/
def signatures (qualifier : String) (required : NameSet) : List (String × Schema) → List String
  | [] => []
  | (name, schema) :: rest =>
    TypeText.signature name (decide (name ∈ required)) (typeText qualifier schema) :: signatures qualifier required rest

end

theorem signatures_eq_map (qualifier : String) (required : NameSet) (properties : List (String × Schema)) :
    signatures qualifier required properties = properties.map fun property =>
      TypeText.signature property.1 (decide (property.1 ∈ required)) (property.2.typeText qualifier) := by
  induction properties with
  | nil => rfl
  | cons property rest ih =>
      obtain ⟨name, schema⟩ := property
      simp [signatures, ih]

@[simp] theorem isChoice_typeExpr (schema : Schema) : schema.typeExpr.isChoice = schema.isChoice := by
  cases schema with
  | primitive kind _ => cases kind <;> rfl
  | _ => rfl

mutual

/-- A schema is written as its type expression. -/
theorem typeText_eq_render (qualifier : String) : (schema : Schema) →
    schema.typeText qualifier = schema.typeExpr.render qualifier
  | reference _ _ => rfl
  | array items _ => by
      rw [typeText, typeExpr, TypeExpr.render, isChoice_typeExpr, typeText_eq_render qualifier items]
  | enumeration _ _ _ => rfl
  | openObject _ _ => rfl
  | object properties required _ => by
      rw [typeText, typeExpr, TypeExpr.render, signatures_eq_fieldTexts qualifier required properties]
  | primitive kind _ => by cases kind <;> rfl
  | composite _ _ _ => rfl
  | unstructured _ => rfl

/-- The same for the properties of an object. -/
theorem signatures_eq_fieldTexts (qualifier : String) (required : NameSet) : (properties : List (String × Schema)) →
    signatures qualifier required properties = TypeExpr.fieldTexts qualifier (fieldTypes required properties)
  | [] => rfl
  | (name, schema) :: rest => by
      rw [signatures, fieldTypes, TypeExpr.fieldTexts, typeText_eq_render qualifier schema,
        signatures_eq_fieldTexts qualifier required rest]

end

end Schema

end ApiTypes
