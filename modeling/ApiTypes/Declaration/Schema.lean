/-
# Declarations of schemas

The declaration of a named schema: a closed choice becomes a choice of literals, a combination an alias, an object with
listed properties an interface.  No other schema is declared; yet an object without listed properties is taken up like
one with them, and left without a word.
-/
import ApiTypes.Declaration.Comment

namespace ApiTypes.Schema

/-- The declaration of a closed choice. -/
def enumDeclaration? (name : String) : Schema → Option Declaration
  | enumeration variants comments _ =>
    some ⟨Name.cleanName name, .enum, Arm.enumBody (arms variants comments), ""⟩
  | _ => none

/-- The text of a combination: all of the members at once, or a choice among them. -/
def combine : Combinator → List String → String
  | .allOf, types => TypeText.intersection types
  | .oneOf, types => TypeText.union types
  | .anyOf, types => TypeText.union types

/-- The declaration of a combination or of an object with listed properties. -/
def typeDeclaration? (qualifier name : String) : Schema → Option Declaration
  | composite combinator members description =>
    some ⟨Name.cleanName name, .alias, combine combinator (members.map (typeText qualifier)),
      Comment.line "" description⟩
  | object properties required description =>
    some ⟨Name.cleanName name, .interface,
      Member.interfaceBody ((object properties required description).members qualifier), Comment.line "" description⟩
  | _ => none

/-- Whether a schema is of a kind that may be declared: a closed choice, a combination or an object. -/
def isTakenUp : Schema → Bool
  | enumeration _ _ _ => true
  | composite _ _ _ => true
  | object _ _ _ => true
  | openObject _ _ => true
  | _ => false

/-- Whether a schema makes a declaration. -/
def isDeclared : Schema → Bool
  | enumeration _ _ _ => true
  | composite _ _ _ => true
  | object _ _ _ => true
  | _ => false

/-- A schema is declared exactly when one of the two kinds of declaration is made for it. -/
theorem isDeclared_iff (name qualifier : String) (schema : Schema) :
    schema.isDeclared =
      ((schema.enumDeclaration? name).isSome || (schema.typeDeclaration? qualifier name).isSome) := by
  cases schema <;> rfl

end ApiTypes.Schema
