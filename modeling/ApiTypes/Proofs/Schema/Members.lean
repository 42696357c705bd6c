/-
# Required fields

Whether a field of an object type may be missing is settled by the list under `required` of that very object.  A field stands
under the text of its key, and this text is looked for in the list: a field whose text is listed is required.  If a field is
required, then its text is listed, or an entry that is the same key.  For a key that is a text both come to the same, and
the field is required exactly when its key is listed.

So it is in every object that is read, and in the object types at any depth of a type.  The lists of the objects around an
object and inside it have no part in it.

* `SettledBy`: what a list says about the property under a key.
* `Value.IsObject.forall₂_presents`: the members of an object that is read.
* `Schema.Inside`: the raw schemas at any depth that the type of a schema shows.
* `Schema.Inside.shows`: the types of these schemas stand in the type of the schema.
-/
import ApiTypes.Declaration.Schema
import ApiTypes.Proofs.Generation.Partition
import ApiTypes.Proofs.Schema.Reading
import Mathlib.Data.List.Forall2

namespace ApiTypes

/-! ## The list of an object -/

/-- A key is listed: one of the values is a scalar that is the same key. -/
def Lists (names : List Value) (key : Scalar) : Prop :=
  ∃ entry : Scalar, .scalar entry ∈ names ∧ entry.sameKey key = true

/-- What a list of names says about the property under a key: listed under its text it is required, and only a listed
property is. -/
structure SettledBy (names : List Value) (key : Scalar) (required : Bool) : Prop where
  of_lists : Lists names (.text key.spelling) → required = true
  lists : required = true → Lists names (.text key.spelling) ∨ Lists names key

theorem lists_text_iff {names : List Value} {name : String} :
    Lists names (.text name) ↔ .scalar (.text name) ∈ names := by
  constructor
  · rintro ⟨entry, hmem, hsame⟩
    rw [← Scalar.sameKey_text_iff.mp hsame]
    exact hmem
  · intro h
    exact ⟨_, h, Scalar.sameKey_text_iff.mpr rfl⟩

/-- **Text keys.**  The property under a text is required exactly when the text is listed. -/
theorem settledBy_text_iff {names : List Value} {name : String} {required : Bool} :
    SettledBy names (.text name) required ↔ (required = true ↔ Lists names (.text name)) := by
  constructor
  · intro h
    exact ⟨fun hrequired => or_self_iff.mp (h.lists hrequired), h.of_lists⟩
  · intro h
    exact ⟨h.mpr, fun hrequired => .inl (h.mp hrequired)⟩

namespace Value

/-- The items of the list under `required` of a mapping. -/
def ownNames (value : Value) : List Value :=
  ((value.field? "required").bind items?).getD []

/-- A value that is read as an object; the given entries are its properties. -/
structure IsObject (reading : Value → Schema) (value : Value) (fields : Entries) : Prop where
  properties : value.field? "properties" = some (.mapping fields)
  object : ∃ properties required description, reading value = .object properties required description

end Value

/-! ## Objects that are read -/

/-- A field of an object type: it stands under the text of its key, has the type and the description of the schema under the
key, and is marked as its own list says. -/
structure Presents (qualifier : String) (names : List Value) (field : Scalar × Value) (member : Member) : Prop where
  signature : member.signature =
    field.1.spelling ++ (if member.required then ": " else "?: ") ++ (Schema.ofValue field.2).typeText qualifier
  description : member.description = (Schema.ofValue field.2).description
  required : SettledBy names field.1 member.required

namespace Facets

variable {f : Facets} {properties : List (String × Schema)} {required : NameSet} {description : Option String}

/-- An object inside a type has the properties and the required names of the facets. -/
theorem of_fragment_eq_object (h : f.fragment = .object properties required description) :
    f.properties = some properties ∧ f.required = required := by
  revert h
  apply fragment_cases (f := f) (motive := fun schema => schema = .object properties required description →
    f.properties = some properties ∧ f.required = required)
  case object =>
    rintro found hfound ⟨⟩
    exact ⟨hfound, rfl⟩
  all_goals intros; contradiction

/-- A list inside a type has the items of the facets. -/
theorem of_fragment_eq_array {items : Schema} (h : f.fragment = .array items description) : f.items = some items := by
  revert h
  apply fragment_cases (f := f) (motive := fun schema => schema = .array items description → f.items = some items)
  case array =>
    rintro found hfound ⟨⟩
    exact hfound
  all_goals intros; contradiction

/-- An object that is a definition has the properties and the required names of the facets. -/
theorem of_definition_eq_object (h : f.definition = .object properties required description) :
    f.properties = some properties ∧ f.required = required := by
  revert h
  apply definition_cases (f := f) (motive := fun schema => schema = .object properties required description →
    f.properties = some properties ∧ f.required = required)
  case object =>
    rintro found hfound ⟨⟩
    exact ⟨hfound, rfl⟩
  all_goals intros; contradiction

/-- A combination that is a definition has the members under its keyword. -/
theorem of_definition_eq_composite {combinator : Combinator} {members : List Schema}
    (h : f.definition = .composite combinator members description) : f.members combinator = members := by
  revert h
  apply definition_cases (f := f) (motive := fun schema => schema = .composite combinator members description →
    f.members combinator = members)
  case composite =>
    rintro found _ ⟨⟩
    rfl
  all_goals intros; contradiction

end Facets

namespace Schema

/-- A reading that makes objects from the facets of mappings. -/
def ReadsFacets (reading : Value → Schema) : Prop :=
  ∀ value properties required description, reading value = .object properties required description →
    ∃ entries, value = .mapping entries ∧ propertiesIn entries = some properties ∧ requiredIn entries = required

theorem readsFacets_ofValue : ReadsFacets ofValue := by
  intro value properties required description h
  cases value with
  | mapping entries => exact ⟨entries, rfl, Facets.of_fragment_eq_object h⟩
  | scalar _ => cases h
  | list _ => cases h
  | set _ => cases h

theorem readsFacets_ofDefinition : ReadsFacets ofDefinition := by
  intro value properties required description h
  cases value with
  | mapping entries => exact ⟨entries, rfl, Facets.of_definition_eq_object h⟩
  | scalar _ => cases h
  | list _ => cases h
  | set _ => cases h

/-- The required names are the texts in the list. -/
theorem mem_requiredIn_iff {entries : Entries} {name : String} :
    name ∈ requiredIn entries ↔ Lists (Value.mapping entries).ownNames (.text name) := by
  rw [lists_text_iff, requiredIn, Value.ownNames, Value.field?_mapping]
  cases Value.lookup "required" entries with
  | none => simp
  | some value =>
      cases value with
      | list items =>
          show name ∈ NameSet.ofList (items.filterMap Value.text?) ↔ _
          rw [NameSet.mem_ofList, Value.mem_filterMap_text?_iff]
          rfl
      | _ => simp [Value.items?]

end Schema

namespace Value

variable {reading : Value → Schema} {value : Value} {fields : Entries}

/-- An object that is read has the readings of its entries as properties, and the texts of its own list as required names. -/
theorem IsObject.exists_eq (hreading : Schema.ReadsFacets reading) (h : value.IsObject reading fields) :
    ∃ required description, reading value = .object (Schema.readProperties fields) required description ∧
      ∀ name, name ∈ required ↔ Lists value.ownNames (.text name) := by
  obtain ⟨properties, required, description, hobject⟩ := h.object
  obtain ⟨entries, rfl, hproperties, rfl⟩ := hreading _ _ _ _ hobject
  rw [Schema.propertiesIn_eq, ← field?_mapping, h.properties] at hproperties
  cases hproperties
  exact ⟨_, _, hobject, fun name => Schema.mem_requiredIn_iff⟩

/-- **The members of an object.**  There is one for each entry, in order, and each is marked as the object's own list says. -/
theorem IsObject.forall₂_presents (hreading : Schema.ReadsFacets reading) (h : value.IsObject reading fields)
    (qualifier : String) :
    List.Forall₂ (Presents qualifier value.ownNames) fields ((reading value).members qualifier) := by
  obtain ⟨required, description, hobject, hrequired⟩ := h.exists_eq hreading
  rw [hobject, Schema.members, Schema.properties, Schema.readProperties_eq_map, List.map_map,
    List.forall₂_map_right_iff, List.forall₂_same]
  intro field _
  have hsettled : (decide (field.1.spelling ∈ required)) = true ↔ Lists value.ownNames (.text field.1.spelling) := by
    rw [decide_eq_true_iff]
    exact hrequired field.1.spelling
  refine ⟨?_, rfl, ⟨hsettled.mpr, fun h => .inl (hsettled.mp h)⟩⟩
  show field.1.spelling ++ (if decide (field.1.spelling ∈ required) = true then "" else "?") ++ ": " ++ _ =
    field.1.spelling ++ (if decide (field.1.spelling ∈ required) = true then ": " else "?: ") ++ _
  split <;> simp [String.append_assoc]

end Value

/-! ## Texts inside texts -/

/-- A text stands inside another one. -/
def Shows (text inner : String) : Prop :=
  ∃ before behind, text = before ++ inner ++ behind

namespace Shows

variable {text middle inner : String}

theorem refl (text : String) : Shows text text :=
  ⟨"", "", by simp⟩

theorem trans (h : Shows text middle) (h' : Shows middle inner) : Shows text inner := by
  obtain ⟨before, behind, rfl⟩ := h
  obtain ⟨before', behind', rfl⟩ := h'
  exact ⟨before ++ before', behind' ++ behind, by simp only [String.append_assoc]⟩

theorem prepend (h : Shows text inner) (before : String) : Shows (before ++ text) inner :=
  trans ⟨before, "", by simp⟩ h

theorem postpend (h : Shows text inner) (behind : String) : Shows (text ++ behind) inner :=
  trans ⟨"", behind, by simp⟩ h

/-- A text with separators shows what stands between them. -/
theorem intercalate (separator : String) {texts : List String} (h : inner ∈ texts) :
    Shows (separator.intercalate texts) inner := by
  induction texts with
  | nil => cases h
  | cons first rest ih =>
      cases rest with
      | nil =>
          rw [List.mem_singleton.mp h, String.intercalate_singleton]
          exact refl first
      | cons next rest =>
          rw [String.intercalate_cons_cons]
          rcases List.mem_cons.mp h with rfl | hrest
          · exact ((refl _).postpend separator).postpend _
          · exact (ih hrest).prepend _

/-- An object type shows the types of its fields. -/
theorem inlineObject {members : List Member} {member : Member} (h : member ∈ members) :
    Shows (TypeText.inlineObject (members.map Member.signature)) member.type := by
  have hsignature : Shows member.signature member.type := (refl _).prepend _
  have hjoined := intercalate ";\n  " (List.mem_map_of_mem (f := Member.signature) h)
  exact ((hjoined.trans hsignature).prepend "\x7b\n  ").postpend "\n\x7d"

/-- An interface shows the types of its fields. -/
theorem interfaceBody {members : List Member} {member : Member} (h : member ∈ members) :
    Shows (Member.interfaceBody members) member.type := by
  have hsignature : Shows member.signature member.type := (refl _).prepend _
  have hline : Shows member.line member.type := (hsignature.prepend _).postpend ";"
  exact (intercalate "\n" (List.mem_map_of_mem (f := Member.line) h)).trans hline

/-- A list shows the type of its items. -/
theorem arrayOf (compound : Bool) (item : String) : Shows (TypeText.arrayOf compound item) item := by
  cases compound with
  | false => exact (refl item).postpend "[]"
  | true => exact ((refl item).prepend "(").postpend ")[]"

/-- A combination shows its members. -/
theorem combine (combinator : Combinator) {types : List String} (h : inner ∈ types) :
    Shows (Schema.combine combinator types) inner := by
  cases combinator with
  | allOf => exact intercalate " & " h
  | oneOf => exact intercalate " | " h
  | anyOf => exact intercalate " | " h

end Shows

/-! ## Schemas at any depth -/

namespace Schema

/-- A raw schema that is part of the type of another one: this schema itself, the items of a list that is part of it, or
a property of an object that is part of it. -/
inductive Inside (outer : Value) : Value → Prop
  | self : Inside outer outer
  | item {value item : Value} {items : Schema} {description : Option String} (hinside : Inside outer value)
      (hlist : ofValue value = .array items description) (hitem : value.field? "items" = some item) : Inside outer item
  | field {value : Value} {fields : Entries} {field : Scalar × Value} (hinside : Inside outer value)
      (hobject : value.IsObject ofValue fields) (hfield : field ∈ fields) : Inside outer field.2

/-- The items of a list that is read are what stands under the keyword. -/
theorem ofValue_item {value item : Value} {items : Schema} {description : Option String}
    (hlist : ofValue value = .array items description) (hitem : value.field? "items" = some item) :
    ofValue item = items := by
  cases value with
  | mapping entries =>
      have hitems : itemsIn entries = some items := Facets.of_fragment_eq_array hlist
      rw [itemsIn_eq, ← Value.field?_mapping, hitem, Option.bind_some] at hitems
      split at hitems
      · cases hitems
        rfl
      · cases hitems
  | scalar _ => cases hlist
  | list _ => cases hlist
  | set _ => cases hlist

/-- The members of a combination that is a definition are what is listed under its keyword. -/
theorem members_of_ofDefinition {value : Value} {combinator : Combinator} {members : List Schema}
    {description : Option String} {items : List Value}
    (hcombination : ofDefinition value = .composite combinator members description)
    (hitems : value.field? combinator.keyword = some (.list items)) : members = items.map ofValue := by
  cases value with
  | mapping entries =>
      have hmembers : membersIn combinator.keyword entries = members := Facets.of_definition_eq_composite hcombination
      rw [membersIn_eq, ← Value.field?_mapping, hitems] at hmembers
      rw [← hmembers, ← readMembers_eq_map]
      rfl
  | scalar _ => cases hcombination
  | list _ => cases hcombination
  | set _ => cases hcombination

variable (qualifier : String)

/-- The type of an object that is read is written from its members. -/
theorem typeText_of_isObject {value : Value} {fields : Entries} (h : value.IsObject ofValue fields) :
    (ofValue value).typeText qualifier =
      TypeText.inlineObject (((ofValue value).members qualifier).map Member.signature) := by
  obtain ⟨properties, required, description, hobject⟩ := h.object
  rw [hobject, typeText_object]

/-- The type of a property is the type of a member. -/
theorem exists_member {schema : Schema} {property : String × Schema} (h : property ∈ schema.properties) :
    ∃ member ∈ schema.members qualifier, member.type = property.2.typeText qualifier :=
  ⟨_, List.mem_map_of_mem h, rfl⟩

/-- **Types at any depth.**  The type of a schema shows the types of the schemas inside it. -/
theorem Inside.shows {outer inner : Value} (h : Inside outer inner) :
    Shows ((ofValue outer).typeText qualifier) ((ofValue inner).typeText qualifier) := by
  induction h with
  | self => exact Shows.refl _
  | @item value item items description _ hlist hitem ih =>
      have hitems : ofValue item = items := ofValue_item hlist hitem
      rw [hlist] at ih
      rw [hitems]
      exact ih.trans (Shows.arrayOf items.isChoice (items.typeText qualifier))
  | @field value fields field _ hobject hfield ih =>
      have hproperty : (field.1.spelling, ofValue field.2) ∈ (ofValue value).properties := by
        obtain ⟨required, description, hread, _⟩ := hobject.exists_eq readsFacets_ofValue
        rw [hread, properties, readProperties_eq_map]
        exact List.mem_map_of_mem hfield
      obtain ⟨member, hmember, htype⟩ := exists_member qualifier hproperty
      rw [typeText_of_isObject qualifier hobject] at ih
      rw [← htype]
      exact ih.trans (Shows.inlineObject hmember)

end Schema

end ApiTypes
