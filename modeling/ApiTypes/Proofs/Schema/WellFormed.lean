/-
# Well-formed schemas

What a document says about a schema is taken only when it is not empty, and the keys of a JSON object tell its entries
apart.  The schemas that are read from JSON data are therefore well-formed, and so are all schemas inside them.

* `Value.IsJson`: JSON data, in which every key is a text that stands only once.
* `Schema.WellFormed`: pointers, descriptions, comments, variants and members that are not empty, and names that are
  distinct.
* `Schema.every_wellFormed_ofValue`: what is read from JSON data is well-formed at every depth.
-/
import ApiTypes.Proofs.Schema.Reading
import Mathlib.Data.List.Nodup

namespace ApiTypes

/-! ## JSON data -/

/-- Whether a scalar can stand in JSON data. -/
def Scalar.IsJson : Scalar → Prop
  | null => True
  | bool _ => True
  | int _ => True
  | float _ => True
  | text _ => True
  | date _ => False
  | moment _ => False
  | bytes _ => False

namespace Value

/-- JSON data: the keys of a mapping are texts, and no two of them are equal. -/
inductive IsJson : Value → Prop
  | scalar {s : Scalar} (datum : s.IsJson) : IsJson (.scalar s)
  | list {items : List Value} (inner : ∀ item ∈ items, IsJson item) : IsJson (.list items)
  | mapping {entries : List (Scalar × Value)} (texts : ∀ entry ∈ entries, ∃ name, entry.1 = .text name)
      (distinct : (entries.map Prod.fst).Nodup) (inner : ∀ entry ∈ entries, IsJson entry.2) : IsJson (.mapping entries)

/-- What is found under a key stands there. -/
theorem mem_of_lookup {name : String} {entries : Entries} {value : Value} (h : lookup name entries = some value) :
    (.text name, value) ∈ entries := by
  induction entries with
  | nil => cases h
  | cons entry rest ih =>
      obtain ⟨key, other⟩ := entry
      rw [lookup] at h
      split at h
      · rename_i hkey
        cases h
        rw [hkey]
        exact List.mem_cons_self
      · exact List.mem_cons_of_mem _ (ih h)

theorem nonemptyText?_ne (name : String) (entries : Entries) : nonemptyText? name entries ≠ some "" := by
  unfold nonemptyText?
  split
  · split
    · simp
    · rename_i hne
      simpa using hne
  · simp

/-- The keys of a JSON object are distinct when they are spelled out. -/
theorem IsJson.nodup_spelling {entries : Entries} (h : (Value.mapping entries).IsJson) :
    (entries.map fun entry => entry.1.spelling).Nodup := by
  cases h with
  | mapping texts distinct inner =>
      have hkeys : entries.map Prod.fst = (entries.map fun entry => entry.1.spelling).map Scalar.text := by
        rw [List.map_map]
        apply List.map_congr_left
        intro entry hentry
        obtain ⟨name, hname⟩ := texts entry hentry
        rw [Function.comp_apply, hname]
        rfl
      rw [hkeys] at distinct
      exact List.Nodup.of_map _ distinct

end Value

/-! ## Well-formed schemas -/

namespace Schema

/-- Whether nothing is empty that a schema is made from, and names in it are distinct. -/
def Proper : Schema → Prop
  | reference pointer _ => pointer ≠ ""
  | array _ _ => True
  | enumeration variants comments _ =>
    variants ≠ [] ∧ (∀ comment ∈ comments, comment.2 ≠ "") ∧ (comments.map Prod.fst).Nodup
  | openObject _ _ => True
  | object properties _ _ => (properties.map Prod.fst).Nodup
  | primitive _ _ => True
  | composite _ members _ => members ≠ []
  | unstructured _ => True

/-- A schema that is well-formed, whatever the schemas inside it are. -/
structure WellFormed (schema : Schema) : Prop where
  proper : schema.Proper
  description : schema.description ≠ some ""

instance : DecidablePred Proper
  | reference pointer _ => inferInstanceAs (Decidable (pointer ≠ ""))
  | array _ _ => inferInstanceAs (Decidable True)
  | enumeration variants comments _ =>
    inferInstanceAs (Decidable
      (variants ≠ [] ∧ (∀ comment ∈ comments, comment.2 ≠ "") ∧ (comments.map Prod.fst).Nodup))
  | openObject _ _ => inferInstanceAs (Decidable True)
  | object properties _ _ => inferInstanceAs (Decidable (properties.map Prod.fst).Nodup)
  | primitive _ _ => inferInstanceAs (Decidable True)
  | composite _ [] _ => isFalse fun h => h rfl
  | composite _ (_ :: _) _ => isTrue (List.cons_ne_nil _ _)
  | unstructured _ => inferInstanceAs (Decidable True)

instance : DecidablePred WellFormed := fun schema =>
  decidable_of_iff (schema.Proper ∧ schema.description ≠ some "")
    ⟨fun h => ⟨h.1, h.2⟩, fun h => ⟨h.proper, h.description⟩⟩

section Decidable

variable (p : Schema → Prop) [DecidablePred p]

mutual

/-- A property that can be decided can be decided at every depth. -/
def decideEvery : ∀ schema : Schema, Decidable (schema.Every p)
  | reference pointer description => inferInstanceAs (Decidable (p (reference pointer description)))
  | array items description =>
    have := decideEvery items
    inferInstanceAs (Decidable (p (array items description) ∧ items.Every p))
  | enumeration variants comments description =>
    inferInstanceAs (Decidable (p (enumeration variants comments description)))
  | openObject required description => inferInstanceAs (Decidable (p (openObject required description)))
  | object properties required description =>
    have := decideEveryProperty properties
    inferInstanceAs (Decidable (p (object properties required description) ∧ EveryProperty p properties))
  | primitive kind description => inferInstanceAs (Decidable (p (primitive kind description)))
  | composite combinator members description =>
    have := decideEveryMember members
    inferInstanceAs (Decidable (p (composite combinator members description) ∧ EveryMember p members))
  | unstructured description => inferInstanceAs (Decidable (p (unstructured description)))

def decideEveryProperty : ∀ properties : List (String × Schema), Decidable (EveryProperty p properties)
  | [] => isTrue trivial
  | (_, schema) :: rest =>
    have := decideEvery schema
    have := decideEveryProperty rest
    inferInstanceAs (Decidable (schema.Every p ∧ EveryProperty p rest))

def decideEveryMember : ∀ members : List Schema, Decidable (EveryMember p members)
  | [] => isTrue trivial
  | member :: rest =>
    have := decideEvery member
    have := decideEveryMember rest
    inferInstanceAs (Decidable (member.Every p ∧ EveryMember p rest))

end

instance : DecidablePred (Every p) := decideEvery p

end Decidable

end Schema

/-! ## Facets of JSON data -/

/-- Facets that make well-formed schemas. -/
structure Facets.Proper (f : Facets) : Prop where
  pointer : f.pointer ≠ some ""
  comments : ∀ comment ∈ f.comments, comment.2 ≠ ""
  commentNames : (f.comments.map Prod.fst).Nodup
  propertyNames : ∀ properties, f.properties = some properties → (properties.map Prod.fst).Nodup
  description : f.description ≠ some ""

/-- The schema of proper facets is well-formed: a choice has variants and a combination has members. -/
theorem Facets.Proper.wellFormed_fragment {f : Facets} (h : f.Proper) : f.fragment.WellFormed := by
  refine fragment_cases ?_ ?_ ?_ ?_ ?_ ?_ ?_ ?_
  · intro pointer hpointer
    exact ⟨fun hempty => h.pointer (hempty ▸ hpointer), h.description⟩
  · exact fun items _ => ⟨trivial, h.description⟩
  · exact fun hvariants => ⟨⟨hvariants, h.comments, h.commentNames⟩, h.description⟩
  · exact fun kind => ⟨trivial, h.description⟩
  · exact fun properties hproperties => ⟨h.propertyNames properties hproperties, h.description⟩
  · exact ⟨trivial, h.description⟩
  · exact fun combinator hmembers => ⟨hmembers, h.description⟩
  · exact ⟨trivial, h.description⟩

namespace Schema

/-- A comment is not empty and stands under the key that it is noted for. -/
theorem spec_commentOf {entry : Scalar × Value} {comment : String × String} (h : commentOf entry = some comment) :
    comment.1 = entry.1.spelling ∧ comment.2 ≠ "" := by
  unfold commentOf at h
  split at h
  · split at h
    · cases h
    · rename_i hne
      cases h
      exact ⟨rfl, hne⟩
  · cases h

/-- Comments are noted under keys, each under its own. -/
theorem names_comments_sublist (entries : Entries) :
    ((entries.filterMap commentOf).map Prod.fst).Sublist (entries.map fun entry => entry.1.spelling) := by
  induction entries with
  | nil => exact List.Sublist.slnil
  | cons entry rest ih =>
      rw [List.map_cons]
      cases hcomment : commentOf entry with
      | none =>
          rw [List.filterMap_cons_none hcomment]
          exact ih.cons _
      | some comment =>
          rw [List.filterMap_cons_some hcomment, List.map_cons, (spec_commentOf hcomment).1]
          exact ih.cons_cons _

theorem ne_empty_of_mem_commentsIn {entries : Entries} {comment : String × String} (h : comment ∈ commentsIn entries) :
    comment.2 ≠ "" := by
  unfold commentsIn at h
  split at h
  · obtain ⟨entry, _, hcomment⟩ := List.mem_filterMap.mp h
    exact (spec_commentOf hcomment).2
  · cases h

theorem nodup_commentsIn {entries : Entries} (h : ∀ entry ∈ entries, entry.2.IsJson) :
    ((commentsIn entries).map Prod.fst).Nodup := by
  unfold commentsIn
  split
  · rename_i comments hlookup
    have hjson : (Value.mapping comments).IsJson := h _ (Value.mem_of_lookup hlookup)
    exact hjson.nodup_spelling.sublist (names_comments_sublist comments)
  · exact List.nodup_nil

theorem nodup_propertiesIn {entries : Entries} (h : ∀ entry ∈ entries, entry.2.IsJson)
    {properties : List (String × Schema)} (hproperties : propertiesIn entries = some properties) :
    (properties.map Prod.fst).Nodup := by
  rw [propertiesIn_eq] at hproperties
  obtain ⟨value, hlookup, hvalue⟩ := Option.bind_eq_some_iff.mp hproperties
  have hjson : value.IsJson := h _ (Value.mem_of_lookup hlookup)
  cases value with
  | mapping inner =>
      cases hvalue
      rw [readProperties_eq_map, List.map_map]
      exact hjson.nodup_spelling
  | scalar _ => cases hvalue
  | list _ => cases hvalue
  | set _ => cases hvalue

theorem proper_facets {entries : Entries} (h : ∀ entry ∈ entries, entry.2.IsJson) : (facets entries).Proper where
  pointer := Value.nonemptyText?_ne "$ref" entries
  comments := fun _ => ne_empty_of_mem_commentsIn
  commentNames := nodup_commentsIn h
  propertyNames := fun _ => nodup_propertiesIn h
  description := Value.nonemptyText?_ne "description" entries

/-! ## Reading JSON data -/

variable {p : Schema → Prop}

theorem everyProperty_readProperties {entries : Entries} (h : ∀ entry ∈ entries, (ofValue entry.2).Every p) :
    EveryProperty p (readProperties entries) := by
  induction entries with
  | nil => trivial
  | cons entry rest ih =>
      exact ⟨h entry List.mem_cons_self, ih fun other hother => h other (List.mem_cons_of_mem _ hother)⟩

theorem everyMember_readMembers {items : List Value} (h : ∀ item ∈ items, (ofValue item).Every p) :
    EveryMember p (readMembers items) := by
  induction items with
  | nil => trivial
  | cons item rest ih =>
      exact ⟨h item List.mem_cons_self, ih fun other hother => h other (List.mem_cons_of_mem _ hother)⟩

/-- A value has well-formed schemas whichever way it is read: as a schema, as a mapping of properties or as a list of
members. -/
structure ReadsWellFormed (value : Value) : Prop where
  schema : (ofValue value).Every WellFormed
  properties : ∀ properties, propertiesOf value = some properties → EveryProperty WellFormed properties
  members : EveryMember WellFormed (membersOf value)

namespace ReadsWellFormed

variable {entries : Entries} (hvalues : ∀ entry ∈ entries, ReadsWellFormed entry.2)
include hvalues

theorem every_itemsIn {items : Schema} (h : itemsIn entries = some items) : items.Every WellFormed := by
  rw [itemsIn_eq] at h
  obtain ⟨value, hlookup, hvalue⟩ := Option.bind_eq_some_iff.mp h
  split at hvalue
  · cases hvalue
    exact (hvalues _ (Value.mem_of_lookup hlookup)).schema
  · cases hvalue

theorem every_propertiesIn {properties : List (String × Schema)} (h : propertiesIn entries = some properties) :
    EveryProperty WellFormed properties := by
  rw [propertiesIn_eq] at h
  obtain ⟨value, hlookup, hvalue⟩ := Option.bind_eq_some_iff.mp h
  exact (hvalues _ (Value.mem_of_lookup hlookup)).properties properties hvalue

theorem every_membersIn (keyword : String) : EveryMember WellFormed (membersIn keyword entries) := by
  rw [membersIn_eq]
  cases hlookup : Value.lookup keyword entries with
  | none => trivial
  | some value => exact (hvalues _ (Value.mem_of_lookup hlookup)).members

end ReadsWellFormed

theorem readsWellFormed {value : Value} (h : value.IsJson) : ReadsWellFormed value := by
  have hnone : WellFormed (unstructured none) := ⟨trivial, nofun⟩
  -- the induction is on the data; a mapping asks for what stands under its keys in all three ways
  induction h with
  | scalar _ => exact ⟨hnone, nofun, trivial⟩
  | list _ ih => exact ⟨hnone, nofun, everyMember_readMembers fun item hitem => (ih item hitem).schema⟩
  | mapping _ _ inner ih =>
      constructor
      · apply every_fragment (proper_facets inner).wellFormed_fragment
        · exact fun _ => ReadsWellFormed.every_itemsIn ih
        · exact fun _ => ReadsWellFormed.every_propertiesIn ih
        · exact fun combinator => ReadsWellFormed.every_membersIn ih combinator.keyword
      · intro properties hproperties
        cases hproperties
        exact everyProperty_readProperties fun entry hentry => (ih entry hentry).schema
      · trivial

/-- **Reading JSON data.**  The schema that is read is well-formed at every depth. -/
theorem every_wellFormed_ofValue {value : Value} (h : value.IsJson) : (ofValue value).Every WellFormed :=
  (readsWellFormed h).schema

end Schema

end ApiTypes
