/-
# The declarations of schemas

What is made of one named schema (`Generated.declarationOf?`), whichever of the two passes over the schemas makes it.

* `Generated.ofValue_eq_ok_iff`: what is made of a value is what is made of the document that it describes.
* `Generated.mem_schemaDeclarations`: the declarations of the schemas are the declarations of single schemas.
* `Generated.isDeclared_iff_exists`: which schemas are declared does not depend on the qualifier.
-/
import ApiTypes.Generation.Basic
import Mathlib.Tactic.Common

namespace ApiTypes

/-- The operations of a document that was read are those of its data. -/
theorem Document.operations_of_ofValue {value : Value} {doc : Document} (h : ofValue value = .ok doc) :
    doc.operations = Operation.ofDocument value := by
  unfold ofValue at h
  split at h
  · cases h
  · cases h
    rfl

namespace Generated

theorem ofValue_eq_ok_iff {qualifier : String} {value : Value} {g : Generated} :
    ofValue qualifier value = .ok g ↔ ∃ doc, Document.ofValue value = .ok doc ∧ ofDocument qualifier doc = g := by
  unfold ofValue
  cases Document.ofValue value with
  | error e => simp [Except.map]
  | ok doc => simp [Except.map]

section Declarations

variable (qualifier : String) (doc : Document)

/-- The declaration made for a named schema, if there is one. -/
def declarationOf? (definition : String × Schema) : Option Declaration :=
  (definition.2.enumDeclaration? definition.1).or (definition.2.typeDeclaration? qualifier definition.1) |>.map
    (withUsage doc.operations definition.1)

/-- A schema has a declaration if one of the passes makes it. -/
theorem declarationOf?_eq_some_iff {definition : String × Schema} {d : Declaration} :
    declarationOf? qualifier doc definition = some d ↔
      (definition.2.enumDeclaration? definition.1).map (withUsage doc.operations definition.1) = some d ∨
        (definition.2.typeDeclaration? qualifier definition.1).map (withUsage doc.operations definition.1) = some d := by
  obtain ⟨name, schema⟩ := definition
  cases schema <;> simp [declarationOf?, Schema.enumDeclaration?, Schema.typeDeclaration?]

/-- **The declarations of the schemas** are those of the single schemas. -/
theorem mem_schemaDeclarations {d : Declaration} :
    d ∈ schemaDeclarations qualifier doc ↔
      ∃ definition ∈ doc.definitions, declarationOf? qualifier doc definition = some d := by
  simp only [schemaDeclarations, enumDeclarations, typeDeclarations, List.mem_append, List.mem_filterMap,
    declarationOf?_eq_some_iff, and_or_left, exists_or]

/-- A declaration is called after its schema. -/
theorem name_of_declarationOf? {definition : String × Schema} {d : Declaration}
    (h : declarationOf? qualifier doc definition = some d) : d.name = Name.cleanName definition.1 := by
  obtain ⟨name, schema⟩ := definition
  obtain ⟨made, hmade, rfl⟩ := Option.map_eq_some_iff.mp h
  cases schema <;> cases hmade <;> rfl

/-- Whether a schema is declared can be seen from the schema alone. -/
theorem isDeclared_iff_exists (definition : String × Schema) :
    definition.2.isDeclared = true ↔ ∃ d, declarationOf? qualifier doc definition = some d := by
  rw [Schema.isDeclared_iff definition.1 qualifier, ← Option.isSome_iff_exists, declarationOf?, Option.isSome_map,
    Option.isSome_or]

end Declarations

end Generated

end ApiTypes
