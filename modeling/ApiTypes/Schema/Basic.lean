/-
# Schemas

The shape of a piece of data as a document describes it.  A schema is one of eight forms; each may carry a description.

An object lists its properties in the order of the document, with the set of the names it requires.  That set is the
object's own: it says nothing about the objects inside or around it.
-/
import ApiTypes.Name.NameSet

namespace ApiTypes

/-- The kinds of single data. -/
inductive PrimitiveKind
  | string
  | integer
  | number
  | boolean
  deriving DecidableEq

/-- The ways to combine schemas. -/
inductive Combinator
  | allOf
  | oneOf
  | anyOf
  deriving DecidableEq

/-- A schema: a pointer to another one, a list, a closed choice of variants, an object with or without listed
properties, a single datum, a combination, or a shape of which nothing is known. -/
inductive Schema
  | reference (pointer : String) (description : Option String)
  | array (items : Schema) (description : Option String)
  | enumeration (variants : List String) (comments : List (String × String)) (description : Option String)
  | openObject (required : NameSet) (description : Option String)
  | object (properties : List (String × Schema)) (required : NameSet) (description : Option String)
  | primitive (kind : PrimitiveKind) (description : Option String)
  | composite (combinator : Combinator) (members : List Schema) (description : Option String)
  | unstructured (description : Option String)

instance : Inhabited Schema := ⟨.unstructured none⟩

/-! ## Words -/

namespace PrimitiveKind

/-- The word of a kind. -/
def word : PrimitiveKind → String
  | string => "string"
  | integer => "integer"
  | number => "number"
  | boolean => "boolean"

/-- The kind that a word names. -/
def ofWord? (word : String) : Option PrimitiveKind :=
  if word = "string" then some string
  else if word = "integer" then some integer
  else if word = "number" then some number
  else if word = "boolean" then some boolean
  else none

@[simp] theorem ofWord?_word (kind : PrimitiveKind) : ofWord? kind.word = some kind := by
  cases kind <;> simp [word, ofWord?]

end PrimitiveKind

namespace Combinator

/-- The keyword under which the members of a combination stand. -/
def keyword : Combinator → String
  | allOf => "allOf"
  | oneOf => "oneOf"
  | anyOf => "anyOf"

/-- The combinators in the order in which their keywords are tried. -/
def all : List Combinator := [allOf, oneOf, anyOf]

end Combinator

/-! ## Parts of a schema -/

namespace Schema

/-- The description of a schema. -/
def description : Schema → Option String
  | reference _ d => d
  | array _ d => d
  | enumeration _ _ d => d
  | openObject _ d => d
  | object _ _ d => d
  | primitive _ d => d
  | composite _ _ d => d
  | unstructured d => d

/-- The names that an object requires; other schemas require none. -/
def required : Schema → NameSet
  | openObject required _ => required
  | object _ required _ => required
  | _ => ∅

/-- The listed properties of an object; other schemas list none. -/
def properties : Schema → List (String × Schema)
  | object properties _ _ => properties
  | _ => []

/-- The comment on a variant: the first one noted under its name. -/
def commentFor (comments : List (String × String)) (variant : String) : Option String :=
  comments.lookup variant

end Schema

end ApiTypes
