/-
# Every schema is declared or skipped

The keywords of a raw schema settle what is made of it (`DeclarationKind.ofKeywords?`): a declaration in the first pass over
the schemas, a declaration in the second one, or a warning.  The schemas that the two passes declare and the schemas that
are warned about are all schemas, each of them once.

* `Schema.declarationKind?_ofDefinition`: reading a schema keeps the kind that its keywords ask for.
* `Generated.forall₂_declares`: no pass drops a schema that it has chosen.
* `Operation.length_drafts`: how many declarations an operation adds.
* `Generated.schemas_partition`: the account of a whole document.
-/
import ApiTypes.Proofs.Generation.Schemas
import ApiTypes.Proofs.Schema.Reading
import Mathlib.Algebra.GroupWithZero.Nat
import Mathlib.Data.List.Basic
import Mathlib.Data.List.Perm.Basic

namespace ApiTypes

/-! ## What the keywords ask for -/

namespace Value

@[simp] theorem field?_mapping (name : String) (entries : Entries) :
    (mapping entries).field? name = lookup name entries := rfl

/-- Whether a list that is not empty stands under a keyword of a mapping. -/
def hasList (keyword : String) (value : Value) : Bool :=
  match value.field? keyword with
  | some (.list items) => !items.isEmpty
  | _ => false

/-- Whether a mapping stands under a keyword of a mapping. -/
def hasMapping (keyword : String) (value : Value) : Bool :=
  match value.field? keyword with
  | some (.mapping _) => true
  | _ => false

/-- The value is a document whose named schemas are the given entries. -/
def NamesSchemas (value : Value) (schemas : Entries) : Prop :=
  ∃ entries components, value = .mapping entries ∧ lookup "components" entries = some (.mapping components) ∧
    lookup "schemas" components = some (.mapping schemas)

end Value

/-- The kind of declaration that the keywords of a raw schema ask for: variants come before members, and members before
properties. -/
def DeclarationKind.ofKeywords? (value : Value) : Option DeclarationKind :=
  if value.hasList "x-enum-varnames" then some .enum
  else if value.hasList "allOf" || value.hasList "oneOf" || value.hasList "anyOf" then some .alias
  else if value.hasMapping "properties" then some .interface
  else none

/-- The kind of the declaration that is made for a schema. -/
def Schema.declarationKind? : Schema → Option DeclarationKind
  | enumeration _ _ _ => some .enum
  | composite _ _ _ => some .alias
  | object _ _ _ => some .interface
  | _ => none

/-! ## Reading keeps the kind -/

/-- The forms that the schema of a definition can have. -/
def Schema.IsDefinition : Schema → Prop
  | enumeration _ _ _ => True
  | composite _ _ _ => True
  | object _ _ _ => True
  | unstructured _ => True
  | reference _ _ => False
  | array _ _ => False
  | openObject _ _ => False
  | primitive _ _ => False

namespace Facets

variable (f : Facets)

/-- No definition is a pointer, a list, a single datum or an object without listed properties. -/
theorem isDefinition_definition : f.definition.IsDefinition :=
  definition_cases (fun _ => trivial) (fun _ _ => trivial) (fun _ _ => trivial) trivial

theorem isSome_combination? (combinator : Combinator) :
    (f.combination? combinator).isSome = !(f.members combinator).isEmpty := by
  unfold combination?
  cases (f.members combinator).isEmpty <;> rfl

/-- There is a combination exactly when one of the three keywords has members. -/
theorem isSome_composite? : f.composite?.isSome =
    (!(f.members .allOf).isEmpty || !(f.members .oneOf).isEmpty || !(f.members .anyOf).isEmpty) := by
  rw [composite?, List.isSome_findSome?, Combinator.all]
  simp [isSome_combination?, Bool.or_assoc]

theorem declarationKind?_of_composite? {schema : Schema} (h : f.composite? = some schema) :
    schema.declarationKind? = some .alias := by
  obtain ⟨combinator, _, rfl⟩ := of_composite?_eq_some h
  rfl

/-- The kind of a definition, facet by facet. -/
theorem declarationKind?_definition : f.definition.declarationKind? =
    if !f.variants.isEmpty then some .enum
    else if f.composite?.isSome then some .alias
    else if f.properties.isSome then some .interface
    else none := by
  unfold definition enumeration?
  cases hvariants : f.variants.isEmpty with
  | false => rfl
  | true =>
      cases hcomposite : f.composite? with
      | some schema => simpa using declarationKind?_of_composite? f hcomposite
      | none =>
          cases hproperties : f.properties with
          | none => rfl
          | some properties => simp [object, hproperties, Schema.declarationKind?]

end Facets

namespace Schema

variable (entries : Entries)

theorem isEmpty_variantsIn :
    (variantsIn entries).isEmpty = !(Value.mapping entries).hasList "x-enum-varnames" := by
  rw [variantsIn, Value.hasList, Value.field?_mapping]
  cases Value.lookup "x-enum-varnames" entries with
  | none => rfl
  | some value => cases value <;> simp

theorem isEmpty_membersIn (keyword : String) :
    (membersIn keyword entries).isEmpty = !(Value.mapping entries).hasList keyword := by
  rw [membersIn_eq, Value.hasList, Value.field?_mapping]
  cases Value.lookup keyword entries with
  | none => rfl
  | some value => cases value <;> simp [membersOf, readMembers_eq_map]

theorem isSome_propertiesIn :
    (propertiesIn entries).isSome = (Value.mapping entries).hasMapping "properties" := by
  rw [propertiesIn_eq, Value.hasMapping, Value.field?_mapping]
  cases Value.lookup "properties" entries with
  | none => rfl
  | some value => cases value <;> rfl

/-- **Reading keeps the kind.**  What is declared for a schema that is read can be told from its keywords. -/
theorem declarationKind?_ofDefinition (value : Value) :
    (ofDefinition value).declarationKind? = DeclarationKind.ofKeywords? value := by
  cases value with
  | mapping entries =>
      rw [ofDefinition_mapping, Facets.declarationKind?_definition, Facets.isSome_composite?, DeclarationKind.ofKeywords?]
      simp only [facets, facetsWith, isEmpty_variantsIn, isEmpty_membersIn, isSome_propertiesIn, Bool.not_not,
        Combinator.keyword]
  | scalar _ => rfl
  | list _ => rfl
  | set _ => rfl

/-- A definition that is taken up is declared, because none is an object without listed properties. -/
theorem isTakenUp_ofDefinition (value : Value) :
    (ofDefinition value).isTakenUp = (ofDefinition value).declarationKind?.isSome := by
  have hform : (ofDefinition value).IsDefinition := by
    cases value with
    | mapping entries => exact (facets entries).isDefinition_definition
    | scalar _ | list _ | set _ => trivial
  cases hschema : ofDefinition value with
  | openObject required description =>
      rw [hschema] at hform
      exact hform.elim
  | _ => rfl

end Schema

/-! ## The two passes -/

namespace Generated

/-- The named schemas that are declared as one of the given kinds. -/
def declaredAs (kinds : List DeclarationKind) (schemas : Entries) : Entries :=
  schemas.filter fun entry => (DeclarationKind.ofKeywords? entry.2).any kinds.contains

/-- The named schemas that are not declared. -/
def undeclared (schemas : Entries) : Entries :=
  schemas.filter fun entry => (DeclarationKind.ofKeywords? entry.2).isNone

/-- The definition that an entry of the named schemas makes. -/
def definitionOf (entry : Scalar × Value) : String × Schema :=
  (entry.1.spelling, Schema.ofDefinition entry.2)

/-- What the two passes declare and what is warned about are all schemas, each of them once. -/
theorem perm_declaredAs_undeclared (schemas : Entries) :
    (declaredAs [.enum] schemas ++ declaredAs [.alias, .interface] schemas ++ undeclared schemas).Perm schemas := by
  induction schemas with
  | nil => exact List.Perm.refl _
  | cons entry rest ih =>
      simp only [declaredAs, undeclared, List.filter_cons] at ih ⊢
      rcases hkind : DeclarationKind.ofKeywords? entry.2 with _ | kind
      · exact (List.perm_middle).trans (ih.cons entry)
      · rw [List.append_assoc] at ih ⊢
        match kind with
        | .enum => exact ih.cons entry
        | .interface | .alias => exact (List.perm_middle).trans (ih.cons entry)

section Passes

variable (qualifier : String) (doc : Document)

/-- A declaration is of the kind of its schema, and a schema without a kind has none. -/
theorem map_kind_declarationOf? (definition : String × Schema) :
    (declarationOf? qualifier doc definition).map Declaration.kind = definition.2.declarationKind? := by
  obtain ⟨name, schema⟩ := definition
  cases schema <;> rfl

/-- A declaration is made for an entry of the named schemas, and is of the kind that the keywords ask for. -/
def Declares (entry : Scalar × Value) (d : Declaration) : Prop :=
  declarationOf? qualifier doc (definitionOf entry) = some d ∧ DeclarationKind.ofKeywords? entry.2 = some d.kind

/-- A schema that is chosen for one of the passes is declared. -/
theorem exists_declares {kinds : List DeclarationKind} {schemas : Entries} {entry : Scalar × Value}
    (h : entry ∈ declaredAs kinds schemas) : ∃ d, Declares qualifier doc entry d := by
  have hkind := map_kind_declarationOf? qualifier doc (definitionOf entry)
  rw [definitionOf, Schema.declarationKind?_ofDefinition, ← definitionOf] at hkind
  obtain ⟨_, hchosen⟩ := List.mem_filter.mp h
  obtain ⟨kind, hsome, _⟩ := (Option.any_eq_true _ _).mp hchosen
  rw [hsome, Option.map_eq_some_iff] at hkind
  obtain ⟨d, hd, rfl⟩ := hkind
  exact ⟨d, hd, hsome⟩

/-- **No declaration is dropped.**  The schemas that are chosen for a pass have one declaration each, in their order. -/
theorem forall₂_declares (kinds : List DeclarationKind) (schemas : Entries) :
    List.Forall₂ (Declares qualifier doc) (declaredAs kinds schemas)
      ((declaredAs kinds schemas).filterMap fun entry => declarationOf? qualifier doc (definitionOf entry)) := by
  have hall : ∀ entry ∈ declaredAs kinds schemas, ∃ d, Declares qualifier doc entry d :=
    fun entry h => exists_declares qualifier doc h
  generalize declaredAs kinds schemas = chosen at hall ⊢
  induction chosen with
  | nil => exact .nil
  | cons entry rest ih =>
      obtain ⟨d, hd⟩ := hall entry List.mem_cons_self
      have hcons : (entry :: rest).filterMap (fun entry => declarationOf? qualifier doc (definitionOf entry)) =
          d :: rest.filterMap fun entry => declarationOf? qualifier doc (definitionOf entry) :=
        List.filterMap_cons_some hd.1
      rw [hcons]
      exact .cons hd (ih fun other hother => hall other (List.mem_cons_of_mem _ hother))

variable {doc} {schemas : Entries}

/-- The first pass declares the closed choices. -/
theorem enumDeclarations_eq (h : doc.definitions = schemas.map definitionOf) :
    enumDeclarations doc =
      (declaredAs [.enum] schemas).filterMap fun entry => declarationOf? qualifier doc (definitionOf entry) := by
  rw [enumDeclarations, h, List.filterMap_map, declaredAs, List.filterMap_filter]
  apply List.filterMap_congr
  intro entry _
  rw [← Schema.declarationKind?_ofDefinition, Function.comp_apply, declarationOf?, definitionOf]
  cases Schema.ofDefinition entry.2 <;> rfl

/-- The second pass declares the combinations and objects. -/
theorem typeDeclarations_eq (h : doc.definitions = schemas.map definitionOf) :
    typeDeclarations qualifier doc = (declaredAs [.alias, .interface] schemas).filterMap fun entry =>
      declarationOf? qualifier doc (definitionOf entry) := by
  rw [typeDeclarations, h, List.filterMap_map, declaredAs, List.filterMap_filter]
  apply List.filterMap_congr
  intro entry _
  rw [← Schema.declarationKind?_ofDefinition, Function.comp_apply, declarationOf?, definitionOf]
  cases Schema.ofDefinition entry.2 <;> rfl

/-- The schemas that are warned about are those that are not declared. -/
theorem skippedNames_eq (h : doc.definitions = schemas.map definitionOf) :
    skippedNames doc = (undeclared schemas).map fun entry => entry.1.spelling := by
  rw [skippedNames, h, List.filter_map, List.map_map, undeclared]
  congr 1
  apply List.filter_congr
  intro entry _
  rw [← Schema.declarationKind?_ofDefinition, Function.comp_apply, definitionOf, Schema.isTakenUp_ofDefinition]
  cases (Schema.ofDefinition entry.2).declarationKind? <;> rfl

end Passes

end Generated

/-! ## The declarations of operations -/

/-- How many declarations an operation adds: one each for having query parameters, path parameters and a body. -/
def Operation.declarationCount (op : Operation) : Nat :=
  (op.parameters.any fun p => p.location = "query").toNat + (op.parameters.any fun p => p.location = "path").toNat +
    op.body.isSome.toNat

namespace Operation

variable (qualifier : String) (op : Operation)

/-- There is an interface for a location exactly when a parameter stands there. -/
theorem length_interfaceDraft (suffix content location : String) (member : Parameter → Member) :
    (op.interfaceDraft suffix content ((op.parametersAt location).map member)).length =
      (op.parameters.any fun p => p.location = location).toNat := by
  rw [interfaceDraft, List.isEmpty_map, parametersAt]
  cases hany : op.parameters.any fun p => p.location = location with
  | false =>
      have hnone : op.parameters.filter (fun p => p.location = location) = [] := by
        simpa [List.filter_eq_nil_iff] using hany
      rw [hnone]
      rfl
  | true =>
      have hsome : op.parameters.filter (fun p => p.location = location) ≠ [] := by
        simpa [List.filter_eq_nil_iff] using hany
      rw [if_neg (by simpa using hsome)]
      rfl

theorem length_drafts : (op.drafts qualifier).length = op.declarationCount := by
  rw [drafts, List.length_append, List.length_append, queryDraft, pathDraft, bodyDraft, length_interfaceDraft,
    length_interfaceDraft, List.length_map, declarationCount]
  cases op.body <;> rfl

end Operation

/-! ## The account of a document -/

/-- Only a mapping has something under a key. -/
theorem exists_mapping_of_field? {name : String} {value inner : Value} (h : value.field? name = some inner) :
    ∃ entries, value = .mapping entries := by
  cases value with
  | mapping entries => exact ⟨entries, rfl⟩
  | scalar _ => cases h
  | list _ => cases h
  | set _ => cases h

/-- The named schemas of a document stand in a mapping inside the mapping of its components. -/
theorem Document.schemasIn_eq_some_iff {value : Value} {schemas : Entries} :
    schemasIn value = some schemas ↔ value.NamesSchemas schemas := by
  constructor
  · intro h
    obtain ⟨inner, hinner, hentries⟩ := Option.bind_eq_some_iff.mp h
    obtain ⟨outer, houter, hschemas⟩ := Option.bind_eq_some_iff.mp hinner
    obtain ⟨entries, rfl⟩ := exists_mapping_of_field? houter
    obtain ⟨components, rfl⟩ := exists_mapping_of_field? hschemas
    cases inner with
    | mapping _ =>
        cases hentries
        exact ⟨entries, components, rfl, houter, hschemas⟩
    | scalar _ => cases hentries
    | list _ => cases hentries
    | set _ => cases hentries
  · rintro ⟨entries, components, rfl, hcomponents, hschemas⟩
    rw [schemasIn, Value.field?_mapping, hcomponents, Option.bind_some, Value.field?_mapping, hschemas]
    rfl

namespace Generated

theorem length_requests (qualifier : String) (doc : Document) :
    (ofDocument qualifier doc).requests.length = (doc.operations.map Operation.declarationCount).sum := by
  show (Operation.requestDeclarations qualifier doc.operations _).1.length = _
  rw [Operation.requestDeclarations, Registry.length_nameAll, List.length_flatMap]
  simp only [Operation.length_drafts]

/-- **Every schema is declared or skipped.**  A value is refused exactly when it is no document with named schemas.
Otherwise the declarations of schemas are those of the schemas that list variants, in order, and then those of the other
schemas that list members or properties, in order, one for each and of the kind that its keywords ask for; all other
schemas are warned about, in order.  These are all schemas, each of them once, and the operations add one declaration for
each of having query parameters, path parameters and a body. -/
theorem schemas_partition (qualifier : String) (value : Value) :
    (ofValue qualifier value = .error .missingSchemas ∧ ¬ ∃ schemas, value.NamesSchemas schemas) ∨
      ∃ schemas doc g, value.NamesSchemas schemas ∧ Document.ofValue value = .ok doc ∧
        ofValue qualifier value = .ok g ∧
        List.Forall₂ (Declares qualifier doc)
          (declaredAs [.enum] schemas ++ declaredAs [.alias, .interface] schemas) g.schemas ∧
        g.warnings = (undeclared schemas).map (fun entry =>
          "Skipped schema '" ++ entry.1.spelling ++ "': not an enum, object or composite schema") ∧
        (declaredAs [.enum] schemas ++ declaredAs [.alias, .interface] schemas ++ undeclared schemas).Perm schemas ∧
        g.declarations = g.schemas ++ g.requests ∧
        g.declarations.length =
          schemas.length - g.warnings.length + (doc.operations.map Operation.declarationCount).sum := by
  cases hschemas : Document.schemasIn value with
  | none =>
      left
      refine ⟨by rw [ofValue, Document.ofValue, hschemas]; rfl, ?_⟩
      rintro ⟨schemas, h⟩
      rw [← Document.schemasIn_eq_some_iff, hschemas] at h
      cases h
  | some schemas =>
      right
      let doc : Document := ⟨schemas.map definitionOf, Operation.ofDocument value⟩
      have hdoc : Document.ofValue value = .ok doc := by rw [Document.ofValue, hschemas]; rfl
      have hdefinitions : doc.definitions = schemas.map definitionOf := rfl
      have hdeclared : List.Forall₂ (Declares qualifier doc)
          (declaredAs [.enum] schemas ++ declaredAs [.alias, .interface] schemas) (schemaDeclarations qualifier doc) := by
        rw [schemaDeclarations, enumDeclarations_eq qualifier hdefinitions, typeDeclarations_eq qualifier hdefinitions]
        exact List.rel_append (forall₂_declares qualifier doc [.enum] schemas)
          (forall₂_declares qualifier doc [.alias, .interface] schemas)
      have hwarnings : (ofDocument qualifier doc).warnings = (undeclared schemas).map fun entry =>
          "Skipped schema '" ++ entry.1.spelling ++ "': not an enum, object or composite schema" := by
        show (skippedNames doc).map warning = _
        rw [skippedNames_eq hdefinitions, List.map_map]
        rfl
      have hperm := perm_declaredAs_undeclared schemas
      refine ⟨schemas, doc, ofDocument qualifier doc, Document.schemasIn_eq_some_iff.mp hschemas, hdoc,
        by rw [ofValue, hdoc]; rfl, hdeclared, hwarnings, hperm, rfl, ?_⟩
      -- the lengths of the three parts add up to the number of schemas
      have hlength := hperm.length_eq
      have hcount : (ofDocument qualifier doc).schemas.length = _ := hdeclared.length_eq.symm
      rw [List.length_append] at hlength
      rw [declarations, List.length_append, length_requests, hwarnings, List.length_map, hcount]
      omega

end Generated

end ApiTypes
