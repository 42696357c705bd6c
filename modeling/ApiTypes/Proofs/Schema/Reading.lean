/-
# Schemas that are read

What holds of every schema that is read from a value, at every depth.

* `Facets.fragment_cases`, `Facets.definition_cases`: the forms that the schema of some facets can have, each with what the
  facets say.
* `Schema.HoldsOfRead.every_ofValue`: a property that the schema of every mapping has, whatever stands inside the mapping, is a
  property of all schemas inside a schema that is read.
* `Schema.variants_ofValue`: no closed choice in the type of a schema that is read is empty.
-/
import ApiTypes.Proofs.TypeSyntax.RoundTrip
import ApiTypes.Schema.Reading

namespace ApiTypes

/-! ## The forms of a schema that is read -/

namespace Facets

variable {motive : Schema → Prop} {f : Facets}

/-- The schema of facets is a pointer, a list, a choice, a single datum, an object, a combination or unstructured; what
it is built from are the facets, and a choice or a combination is not empty. -/
theorem fragment_cases (reference : ∀ pointer, f.pointer = some pointer → motive (.reference pointer f.description))
    (array : ∀ items, f.items = some items → motive (.array items f.description))
    (enumeration : f.variants ≠ [] → motive (.enumeration f.variants f.comments f.description))
    (primitive : ∀ kind, motive (.primitive kind f.description))
    (object : ∀ properties, f.properties = some properties → motive (.object properties f.required f.description))
    (openObject : motive (.openObject f.required f.description))
    (composite : ∀ combinator, f.members combinator ≠ [] →
      motive (.composite combinator (f.members combinator) f.description))
    (unstructured : motive (.unstructured f.description)) : motive f.fragment := by
  -- one split for each facet, in the order in which they are asked
  unfold fragment
  split
  · rename_i pointer hpointer
    exact reference pointer hpointer
  split
  · rename_i schema harray
    unfold array? at harray
    split at harray
    · obtain ⟨items, hitems, rfl⟩ := Option.map_eq_some_iff.mp harray
      exact array items hitems
    · cases harray
  split
  · rename_i schema henum
    obtain ⟨hvariants, rfl⟩ := of_enumeration?_eq_some henum
    exact enumeration hvariants
  split
  · rename_i schema hprimitive
    obtain ⟨kind, _, rfl⟩ := Option.map_eq_some_iff.mp hprimitive
    exact primitive kind
  split
  · unfold Facets.object
    split
    · rename_i properties hproperties
      exact object properties hproperties
    · exact openObject
  cases hcomposite : f.composite? with
  | none => exact unstructured
  | some schema =>
      obtain ⟨combinator, hmembers, rfl⟩ := of_composite?_eq_some hcomposite
      exact composite combinator hmembers

/-- The schema of the facets of a definition is a choice, a combination, an object or unstructured. -/
theorem definition_cases (enumeration : f.variants ≠ [] → motive (.enumeration f.variants f.comments f.description))
    (composite : ∀ combinator, f.members combinator ≠ [] →
      motive (.composite combinator (f.members combinator) f.description))
    (object : ∀ properties, f.properties = some properties → motive (.object properties f.required f.description))
    (unstructured : motive (.unstructured f.description)) : motive f.definition := by
  unfold definition
  split
  · rename_i schema henumeration
    obtain ⟨hvariants, rfl⟩ := of_enumeration?_eq_some henumeration
    exact enumeration hvariants
  split
  · rename_i schema hcomposite
    obtain ⟨combinator, hmembers, rfl⟩ := of_composite?_eq_some hcomposite
    exact composite combinator hmembers
  split
  · rename_i properties hproperties
    rw [Facets.object, hproperties]
    exact object properties hproperties
  · exact unstructured

/-- The order when there is neither a pointer nor a list: variants, then the type, and members last. -/
theorem fragment_of_noArray (hpointer : f.pointer = none) (harray : f.array? = none) :
    f.fragment = (f.enumeration?.or f.primitive?).getD
      (if f.type = some "object" then f.object else f.composite?.getD (.unstructured f.description)) := by
  rw [fragment, hpointer, harray]
  cases f.enumeration? with
  | some enumeration => rfl
  | none => cases f.primitive? <;> rfl

end Facets

/-! ## Properties at every depth -/

namespace Schema

mutual

/-- Whether a schema and all schemas inside it have a property. -/
def Every (p : Schema → Prop) : Schema → Prop
  | array items description => p (array items description) ∧ items.Every p
  | object properties required description =>
    p (object properties required description) ∧ EveryProperty p properties
  | composite combinator members description =>
    p (composite combinator members description) ∧ EveryMember p members
  | schema => p schema

/-- Whether all properties, and all schemas inside them, have a property. -/
def EveryProperty (p : Schema → Prop) : List (String × Schema) → Prop
  | [] => True
  | (_, schema) :: rest => schema.Every p ∧ EveryProperty p rest

/-- Whether all members, and all schemas inside them, have a property. -/
def EveryMember (p : Schema → Prop) : List Schema → Prop
  | [] => True
  | member :: rest => member.Every p ∧ EveryMember p rest

end

/-- A schema read from facets has a property at every depth if it has it itself and everything inside it does. -/
theorem every_fragment {p : Schema → Prop} {f : Facets} (hself : p f.fragment)
    (hitems : ∀ items, f.items = some items → items.Every p)
    (hproperties : ∀ properties, f.properties = some properties → EveryProperty p properties)
    (hmembers : ∀ combinator, EveryMember p (f.members combinator)) : f.fragment.Every p := by
  refine Facets.fragment_cases (motive := fun schema => p schema → schema.Every p) ?_ ?_ ?_ ?_ ?_ ?_ ?_ ?_ hself
  · exact fun _ _ h => h
  · exact fun items h hp => ⟨hp, hitems items h⟩
  · exact fun _ h => h
  · exact fun _ h => h
  · exact fun properties h hp => ⟨hp, hproperties properties h⟩
  · exact fun h => h
  · exact fun combinator _ hp => ⟨hp, hmembers combinator⟩
  · exact fun h => h

/-- A property of the schema of every mapping, whatever stands inside, and of the schema of any other value. -/
structure HoldsOfRead (p : Schema → Prop) : Prop where
  mapping : ∀ entries, p (facets entries).fragment
  other : p (.unstructured none)

namespace HoldsOfRead

variable {p : Schema → Prop}

mutual

/-- **Reading at every depth.**  It is enough to look at the schema of one mapping. -/
theorem every_ofValue (hp : HoldsOfRead p) : ∀ value : Value, (ofValue value).Every p
  | .mapping entries =>
    every_fragment (hp.mapping entries) (every_itemsIn hp entries) (every_propertiesIn hp entries)
      fun combinator => every_membersIn hp combinator.keyword entries
  | .scalar _ => hp.other
  | .list _ => hp.other
  | .set _ => hp.other

theorem every_itemsIn (hp : HoldsOfRead p) : ∀ (entries : List (Scalar × Value)) (items : Schema),
    itemsIn entries = some items → items.Every p
  | [], _, h => by cases h
  | (key, value) :: rest, items, h => by
      unfold itemsIn at h
      split at h
      · split at h
        · cases h
          exact every_ofValue hp value
        · cases h
      · exact every_itemsIn hp rest items h

theorem every_propertiesIn (hp : HoldsOfRead p) :
    ∀ (entries : List (Scalar × Value)) (properties : List (String × Schema)),
      propertiesIn entries = some properties → EveryProperty p properties
  | [], _, h => by cases h
  | (key, value) :: rest, properties, h => by
      unfold propertiesIn at h
      split at h
      · exact every_propertiesOf hp value properties h
      · exact every_propertiesIn hp rest properties h

theorem every_propertiesOf (hp : HoldsOfRead p) :
    ∀ (value : Value) (properties : List (String × Schema)),
      propertiesOf value = some properties → EveryProperty p properties
  | .mapping entries, properties, h => by
      cases h
      exact every_readProperties hp entries
  | .scalar _, _, h => by cases h
  | .list _, _, h => by cases h
  | .set _, _, h => by cases h

theorem every_readProperties (hp : HoldsOfRead p) :
    ∀ entries : List (Scalar × Value), EveryProperty p (readProperties entries)
  | [] => trivial
  | (_, value) :: rest => ⟨every_ofValue hp value, every_readProperties hp rest⟩

theorem every_membersIn (hp : HoldsOfRead p) (keyword : String) :
    ∀ entries : List (Scalar × Value), EveryMember p (membersIn keyword entries)
  | [] => trivial
  | (key, value) :: rest => by
      unfold membersIn
      split
      · exact every_membersOf hp value
      · exact every_membersIn hp keyword rest

theorem every_membersOf (hp : HoldsOfRead p) : ∀ value : Value, EveryMember p (membersOf value)
  | .list items => every_readMembers hp items
  | .scalar _ => trivial
  | .mapping _ => trivial
  | .set _ => trivial

theorem every_readMembers (hp : HoldsOfRead p) : ∀ items : List Value, EveryMember p (readMembers items)
  | [] => trivial
  | item :: rest => ⟨every_ofValue hp item, every_readMembers hp rest⟩

end

end HoldsOfRead

/-! ## Choices are not empty -/

/-- A closed choice has variants. -/
def ListsVariants : Schema → Prop
  | enumeration variants _ _ => variants ≠ []
  | _ => True

/-- The schema of a mapping is a closed choice only if variants are listed. -/
theorem listsVariants_fragment (f : Facets) : ListsVariants f.fragment :=
  Facets.fragment_cases (fun _ _ => trivial) (fun _ _ => trivial) (fun h => h) (fun _ => trivial) (fun _ _ => trivial)
    trivial (fun _ _ => trivial) trivial

open TypeExpr

mutual

/-- The choices in the type of a schema are choices in the schema. -/
theorem variants_typeExpr : ∀ schema : Schema, schema.Every ListsVariants → schema.typeExpr.Every HasVariants
  | reference _ _, _ => trivial
  | array items _, h => ⟨trivial, variants_typeExpr items h.2⟩
  | enumeration _ _ _, h => h
  | openObject _ _, _ => trivial
  | object properties required _, h => ⟨trivial, variants_fieldTypes required properties h.2⟩
  | primitive kind _, _ => by cases kind <;> trivial
  | composite _ _ _, _ => trivial
  | unstructured _, _ => trivial

theorem variants_fieldTypes (required : NameSet) : ∀ properties : List (String × Schema),
    EveryProperty ListsVariants properties → EveryField HasVariants (fieldTypes required properties)
  | [], _ => trivial
  | (_, schema) :: rest, h => ⟨variants_typeExpr schema h.1, variants_fieldTypes required rest h.2⟩

end

/-- **No empty choices.**  A schema that is read has a type in which every choice has alternatives. -/
theorem variants_ofValue (value : Value) : (ofValue value).typeExpr.Every HasVariants :=
  variants_typeExpr _ (HoldsOfRead.every_ofValue ⟨fun entries => listsVariants_fragment (facets entries), trivial⟩ value)

end Schema

end ApiTypes
