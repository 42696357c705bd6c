/-
# Declarations

The top-level declarations of the produced module: a choice of literals, an interface, or an alias for a type.  A
declaration is kept as name, kind, body and the comment in front of it, and is put together only when it is written.
-/
import ApiTypes.TypeExpr.Printer

namespace ApiTypes

/-- What a declaration introduces. -/
inductive DeclarationKind
  | enum
  | interface
  | alias
  deriving DecidableEq

/-- A top-level declaration. -/
structure Declaration where
  name : String
  kind : DeclarationKind
  body : String
  comment : String
  deriving DecidableEq

/-- The text of a declaration, its comment in front. -/
def Declaration.render (d : Declaration) : String :=
  d.comment ++
    match d.kind with
    | .enum => "export type " ++ d.name ++ " =" ++ d.body ++ ";"
    | .interface => "export interface " ++ d.name ++ " \x7b\n" ++ d.body ++ "\n\x7d"
    | .alias => "export type " ++ d.name ++ " = " ++ d.body ++ ";"

/-- The text of a module: its declarations, separated by blank lines. -/
def Declaration.renderAll (declarations : List Declaration) : String :=
  "\n\n".intercalate (declarations.map Declaration.render)

/-! ## Bodies -/

/-- A field of an interface. -/
structure Member where
  name : String
  type : String
  required : Bool
  description : Option String
  deriving DecidableEq

/-- The field without its description. -/
def Member.signature (m : Member) : String :=
  TypeText.signature m.name m.required m.type

/-- One of the literals of a choice, with the comment on it. -/
structure Arm where
  value : String
  comment : Option String
  deriving DecidableEq

/-- The fields of an object schema, in the order of the document. -/
def Schema.members (qualifier : String) (schema : Schema) : List Member :=
  schema.properties.map fun property =>
    ⟨property.1, property.2.typeText qualifier, decide (property.1 ∈ schema.required), property.2.description⟩

/-- The literals of a closed choice, each with the first comment noted under its name. -/
def Schema.arms (variants : List String) (comments : List (String × String)) : List Arm :=
  variants.map fun variant => ⟨variant, Schema.commentFor comments variant⟩

/-- The inline text of an object type is built from the signatures of its members. -/
theorem Schema.typeText_object (qualifier : String) (properties : List (String × Schema)) (required : NameSet)
    (description : Option String) :
    (Schema.object properties required description).typeText qualifier =
      TypeText.inlineObject
        (((Schema.object properties required description).members qualifier).map Member.signature) := by
  rw [Schema.typeText, Schema.signatures_eq_map, Schema.members, List.map_map]
  rfl

end ApiTypes
