/-
# Where the two orders of precedence agree

A mapping is read in one of two orders: as part of a type, where a pointer and items come first and the type decides before
members are looked at, or as a definition, where only variants, members and properties count, in this order.  The two
readings of a mapping are the same schema exactly when both orders stop at the same keyword.

* `Facets.definition_eq`: the order of definitions, beside `Facets.fragment_of_noArray` for the order inside types.
* `Facets.fragment_eq_definition_iff`: the facets for which both orders make the same schema.
* `Schema.ofValue_eq_ofDefinition_iff`: the same in terms of the keywords of a mapping.
-/
import ApiTypes.Proofs.Generation.Partition
import ApiTypes.Proofs.Schema.Reading

namespace ApiTypes

/-! ## The two orders -/

namespace Facets

variable (f : Facets)

/-- The order of definitions: variants, then members, then properties. -/
theorem definition_eq : f.definition = (f.enumeration?.or f.composite?).getD
    (if f.properties.isSome then f.object else .unstructured f.description) := by
  rw [definition]
  cases f.enumeration? with
  | some enumeration => rfl
  | none =>
      cases f.composite? with
      | some composite => rfl
      | none => cases f.properties <;> rfl

/-! ## Where they agree -/

/-- Both orders stop at the same facet: at the variants; at the members, because no type comes before them; at the
properties of an object that is typed as one; or nowhere. -/
def OrdersAgree : Prop :=
  f.pointer = none ∧ f.array? = none ∧
    (f.enumeration? ≠ none ∨
      f.enumeration? = none ∧ f.composite? ≠ none ∧ f.primitive? = none ∧ f.type ≠ some "object" ∨
      f.enumeration? = none ∧ f.composite? = none ∧ f.properties ≠ none ∧ f.type = some "object" ∨
      f.enumeration? = none ∧ f.composite? = none ∧ f.properties = none ∧ f.primitive? = none ∧
        f.type ≠ some "object")

/-- A word for a single datum is not the word for objects. -/
theorem primitive?_of_object (h : f.type = some "object") : f.primitive? = none := by
  rw [primitive?, h, Option.bind_some]
  rfl

/-- Without variants and with members the two orders agree if the type is not looked at. -/
theorem fragment_eq_definition_iff_of_composite (hpointer : f.pointer = none) (harray : f.array? = none)
    (henumeration : f.enumeration? = none) {composite : Schema} (hcomposite : f.composite? = some composite) :
    f.fragment = f.definition ↔ f.primitive? = none ∧ f.type ≠ some "object" := by
  have hdefinition : f.definition = composite := by
    rw [definition_eq, henumeration, hcomposite]
    rfl
  have hkind := declarationKind?_of_composite? f hcomposite
  rw [hdefinition, fragment_of_noArray hpointer harray, henumeration, hcomposite]
  by_cases hobject : f.type = some "object"
  · rw [primitive?_of_object f hobject, if_pos hobject]
    refine iff_of_false ?_ fun h => h.2 hobject
    intro h
    -- an object is not declared as an alias
    have hother : f.object.declarationKind? ≠ some .alias := by
      rw [object]
      split <;> simp [Schema.declarationKind?]
    exact hother ((congrArg Schema.declarationKind? h).trans hkind)
  · rw [if_neg hobject]
    cases hprimitive : f.primitive? with
    | none => exact iff_of_true rfl ⟨rfl, hobject⟩
    | some datum =>
        obtain ⟨kind, _, rfl⟩ := Option.map_eq_some_iff.mp hprimitive
        refine iff_of_false ?_ fun h => Option.some_ne_none _ h.1
        intro h
        have hdatum : (Schema.primitive kind f.description).declarationKind? = some .alias :=
          (congrArg Schema.declarationKind? h).trans hkind
        cases hdatum

/-- Without variants and members the two orders agree on an object if properties are listed, and on nothing else if none
are. -/
theorem fragment_eq_definition_iff_of_noComposite (hpointer : f.pointer = none) (harray : f.array? = none)
    (henumeration : f.enumeration? = none) (hcomposite : f.composite? = none) :
    f.fragment = f.definition ↔ f.properties ≠ none ∧ f.type = some "object" ∨
      f.properties = none ∧ f.primitive? = none ∧ f.type ≠ some "object" := by
  rw [definition_eq, fragment_of_noArray hpointer harray, henumeration, hcomposite]
  by_cases hobject : f.type = some "object"
  · rw [primitive?_of_object f hobject, if_pos hobject]
    cases hproperties : f.properties with
    | none => simp [object, hproperties, hobject]
    | some properties => simp [object, hproperties, hobject]
  · rw [if_neg hobject]
    cases hproperties : f.properties with
    | none =>
        cases hprimitive : f.primitive? with
        | none => simp [hobject]
        | some datum =>
            obtain ⟨kind, _, rfl⟩ := Option.map_eq_some_iff.mp hprimitive
            simp
    | some properties =>
        cases hprimitive : f.primitive? with
        | none => simp [object, hproperties, hobject]
        | some datum =>
            obtain ⟨kind, _, rfl⟩ := Option.map_eq_some_iff.mp hprimitive
            simp [object, hproperties, hobject]

/-- **Two orders.**  The facets make the same schema in both orders exactly when both orders stop at the same facet. -/
theorem fragment_eq_definition_iff : f.fragment = f.definition ↔ f.OrdersAgree := by
  rw [OrdersAgree]
  cases hpointer : f.pointer with
  | some pointer =>
      refine iff_of_false ?_ fun h => Option.some_ne_none _ h.1
      intro h
      have hfragment : f.fragment = .reference pointer f.description := by rw [fragment, hpointer]
      have hform := f.isDefinition_definition
      rw [← h, hfragment] at hform
      exact hform
  | none =>
      cases harray : f.array? with
      | some array =>
          refine iff_of_false ?_ fun h => Option.some_ne_none _ h.2.1
          intro h
          have hfragment : f.fragment = array := by rw [fragment, hpointer, harray]
          have hform := f.isDefinition_definition
          rw [← h, hfragment] at hform
          rw [array?] at harray
          split at harray
          · obtain ⟨items, _, rfl⟩ := Option.map_eq_some_iff.mp harray
            exact hform
          · cases harray
      | none =>
          cases henumeration : f.enumeration? with
          | some enumeration =>
              have hsame : f.fragment = f.definition := by
                rw [definition_eq, fragment_of_noArray hpointer harray, henumeration]
                rfl
              exact iff_of_true hsame ⟨rfl, rfl, .inl (Option.some_ne_none enumeration)⟩
          | none =>
              cases hcomposite : f.composite? with
              | some composite =>
                  rw [fragment_eq_definition_iff_of_composite f hpointer harray henumeration hcomposite]
                  simp
              | none =>
                  rw [fragment_eq_definition_iff_of_noComposite f hpointer harray henumeration hcomposite]
                  simp

end Facets

/-! ## In terms of keywords -/

namespace Value

/-- Whether a text that is not empty stands under a keyword of a mapping. -/
def hasText (keyword : String) (value : Value) : Bool :=
  match value.field? keyword with
  | some (.scalar (.text text)) => text ≠ ""
  | _ => false

/-- Whether the given word stands under `type`. -/
def hasType (word : String) (value : Value) : Bool :=
  match value.field? "type" with
  | some (.scalar (.text found)) => found = word
  | _ => false

/-- Whether something stands under a keyword that counts as given. -/
def hasGiven (keyword : String) (value : Value) : Bool :=
  (value.field? keyword).any isGiven

/-- Whether members are listed under one of the keywords for combinations. -/
def hasMembers (value : Value) : Bool :=
  value.hasList "allOf" || value.hasList "oneOf" || value.hasList "anyOf"

/-- Whether the type of a raw schema is a kind of single data. -/
def hasPrimitiveType (value : Value) : Bool :=
  [PrimitiveKind.string, .integer, .number, .boolean].any fun kind => value.hasType kind.word

/-- The keywords at which both orders of precedence stop: the variants; the members, because no type comes before them; the
properties of an object that is typed as one; or none of them. -/
def OrdersAgree (value : Value) : Prop :=
  ¬ value.hasText "$ref" ∧ ¬ (value.hasType "array" ∧ value.hasGiven "items") ∧
    (value.hasList "x-enum-varnames" ∨
      ¬ value.hasList "x-enum-varnames" ∧ value.hasMembers ∧ ¬ value.hasPrimitiveType ∧ ¬ value.hasType "object" ∨
      ¬ value.hasList "x-enum-varnames" ∧ ¬ value.hasMembers ∧ value.hasMapping "properties" ∧ value.hasType "object" ∨
      ¬ value.hasList "x-enum-varnames" ∧ ¬ value.hasMembers ∧ ¬ value.hasMapping "properties" ∧
        ¬ value.hasPrimitiveType ∧ ¬ value.hasType "object")

instance (value : Value) : Decidable value.OrdersAgree :=
  inferInstanceAs (Decidable (_ ∧ _))

theorem hasPrimitiveType_iff (value : Value) :
    value.hasPrimitiveType ↔ ∃ kind : PrimitiveKind, value.hasType kind.word := by
  rw [hasPrimitiveType, List.any_eq_true]
  constructor
  · rintro ⟨kind, _, htype⟩
    exact ⟨kind, htype⟩
  · rintro ⟨kind, htype⟩
    exact ⟨kind, by cases kind <;> simp, htype⟩

end Value

namespace PrimitiveKind

/-- A word names at most one kind, which is the kind with this word. -/
theorem ofWord?_eq_some_iff {word : String} {kind : PrimitiveKind} : ofWord? word = some kind ↔ word = kind.word := by
  constructor
  · intro h
    unfold ofWord? at h
    repeat' split at h
    all_goals cases h
    all_goals assumption
  · rintro rfl
    exact ofWord?_word kind

end PrimitiveKind

namespace Schema

variable (entries : Entries)

theorem pointer_eq_none_iff : (facets entries).pointer = none ↔ ¬ (Value.mapping entries).hasText "$ref" := by
  show Value.nonemptyText? "$ref" entries = none ↔ _
  rw [Value.nonemptyText?, Value.hasText, Value.field?_mapping]
  cases Value.lookup "$ref" entries with
  | none => simp
  | some value =>
      cases value with
      | scalar s => cases s <;> simp
      | _ => simp

theorem type_eq_some_iff (word : String) :
    (facets entries).type = some word ↔ (Value.mapping entries).hasType word := by
  show (Value.lookup "type" entries).bind Value.text? = some word ↔ _
  rw [Value.hasType, Value.field?_mapping]
  cases Value.lookup "type" entries with
  | none => simp
  | some value =>
      cases value with
      | scalar s => cases s <;> simp [Value.text?]
      | _ => simp [Value.text?]

theorem array?_eq_none_iff : (facets entries).array? = none ↔
    ¬ ((Value.mapping entries).hasType "array" ∧ (Value.mapping entries).hasGiven "items") := by
  have hitems : (facets entries).items = none ↔ ¬ (Value.mapping entries).hasGiven "items" := by
    show itemsIn entries = none ↔ _
    rw [itemsIn_eq, Value.hasGiven, Value.field?_mapping]
    cases Value.lookup "items" entries with
    | none => simp
    | some value => cases hgiven : value.isGiven <;> simp [hgiven]
  rw [Facets.array?, ← type_eq_some_iff]
  split
  · rename_i htype
    rw [Option.map_eq_none_iff, hitems]
    simp [htype]
  · rename_i htype
    simp [htype]

theorem enumeration?_eq_none_iff :
    (facets entries).enumeration? = none ↔ ¬ (Value.mapping entries).hasList "x-enum-varnames" := by
  have hvariants := isEmpty_variantsIn entries
  rw [Facets.enumeration?]
  show (if (variantsIn entries).isEmpty then none else _) = none ↔ _
  rw [hvariants]
  cases (Value.mapping entries).hasList "x-enum-varnames" <;> simp

theorem composite?_eq_none_iff : (facets entries).composite? = none ↔ ¬ (Value.mapping entries).hasMembers := by
  have hsome := Facets.isSome_composite? (facets entries)
  simp only [facets, facetsWith, isEmpty_membersIn, Bool.not_not, Combinator.keyword] at hsome
  rw [Value.hasMembers, ← hsome]
  exact (Option.not_isSome_iff_eq_none).symm

theorem properties_eq_none_iff :
    (facets entries).properties = none ↔ ¬ (Value.mapping entries).hasMapping "properties" := by
  have hsome := isSome_propertiesIn entries
  rw [← hsome]
  exact (Option.not_isSome_iff_eq_none).symm

theorem primitive?_eq_none_iff :
    (facets entries).primitive? = none ↔ ¬ (Value.mapping entries).hasPrimitiveType := by
  rw [Facets.primitive?, Option.map_eq_none_iff, Option.eq_none_iff_forall_ne_some, Value.hasPrimitiveType_iff,
    not_exists]
  apply forall_congr'
  intro kind
  rw [← type_eq_some_iff, Ne, Option.bind_eq_some_iff]
  simp [PrimitiveKind.ofWord?_eq_some_iff]

/-- The facets of a mapping agree on a schema exactly when its keywords do. -/
theorem ordersAgree_facets : (facets entries).OrdersAgree ↔ (Value.mapping entries).OrdersAgree := by
  rw [Facets.OrdersAgree, Value.OrdersAgree]
  simp only [ne_eq, pointer_eq_none_iff, array?_eq_none_iff, enumeration?_eq_none_iff, composite?_eq_none_iff,
    properties_eq_none_iff, primitive?_eq_none_iff, type_eq_some_iff, not_not]

/-- **Where the two readings agree.**  As part of a type and as a definition a mapping is the same schema exactly when both
orders of precedence stop at the same keyword.  What is no mapping is unstructured in both, without a description. -/
theorem ofValue_eq_ofDefinition_iff :
    (∀ entries : Entries, ofValue (.mapping entries) = ofDefinition (.mapping entries) ↔
      (Value.mapping entries).OrdersAgree) ∧
    ∀ value : Value, value.entries? = none →
      ofValue value = .unstructured none ∧ ofDefinition value = .unstructured none := by
  constructor
  · intro entries
    rw [ofValue_mapping, ofDefinition_mapping, Facets.fragment_eq_definition_iff]
    exact ordersAgree_facets entries
  · intro value hvalue
    cases value with
    | mapping entries => cases hvalue
    | scalar _ => exact ⟨rfl, rfl⟩
    | list _ => exact ⟨rfl, rfl⟩
    | set _ => exact ⟨rfl, rfl⟩

/-- Members beside properties: the readings differ as soon as the type is that of objects, and a type that is no text does
not count. -/
theorem ofValue_eq_ofDefinition_iff_members :
    let raw := fun type => Value.mapping [(.text "type", type), (.text "properties", .mapping []),
      (.text "allOf", .list []), (.text "anyOf", .list [.scalar .null])]
    ofValue (raw (.scalar (.text "object"))) ≠ ofDefinition (raw (.scalar (.text "object"))) ∧
      ofValue (raw (.list [])) = ofDefinition (raw (.list [])) ∧
      Value.entries? (.list [raw (.list [])]) = none ∧ ofValue (.list [raw (.list [])]) = .unstructured none := by
  intro raw
  obtain ⟨hmapping, hother⟩ := ofValue_eq_ofDefinition_iff
  have hdiffer : ¬ (raw (.scalar (.text "object"))).OrdersAgree := by decide
  have hagree : (raw (.list [])).OrdersAgree := by decide
  refine ⟨fun h => hdiffer ((hmapping _).mp h), (hmapping _).mpr hagree, rfl, ?_⟩
  exact (hother (.list [raw (.list [])]) rfl).1

end Schema

end ApiTypes
