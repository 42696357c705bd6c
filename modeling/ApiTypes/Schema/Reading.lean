/-
# Reading schemas

A schema is read from a mapping of a document.  `Facets` collects what the keywords of the mapping say, each on its own;
then one of two orders of precedence decides which facet makes the schema.

* `Facets.fragment` is used wherever a schema becomes part of a type: a pointer wins, then a list, a closed choice, a
  single datum, an object and last a combination.
* `Facets.definition` is used for the named schemas of a document: only a closed choice, a combination and an object with
  listed properties make a declaration.

`Schema.ofValue` and `Schema.ofDefinition` apply the two orders to a value; a value that is no mapping has no facets.
-/
import ApiTypes.Schema.Basic
import ApiTypes.Value.Spelling

namespace ApiTypes

/-! ## Facets -/

/-- What the keywords of a schema mapping say. -/
structure Facets where
  pointer : Option String
  type : Option String
  items : Option Schema
  variants : List String
  comments : List (String × String)
  properties : Option (List (String × Schema))
  required : NameSet
  members : Combinator → List Schema
  description : Option String

namespace Facets

/-- The closed choice that the facets describe, if variants are listed. -/
def enumeration? (f : Facets) : Option Schema :=
  if f.variants.isEmpty then none else some (.enumeration f.variants f.comments f.description)

/-- The list that the facets describe: the type says so and items are given. -/
def array? (f : Facets) : Option Schema :=
  if f.type = some "array" then f.items.map fun items => .array items f.description else none

/-- The single datum that the facets describe. -/
def primitive? (f : Facets) : Option Schema :=
  (f.type.bind PrimitiveKind.ofWord?).map fun kind => .primitive kind f.description

/-- The object that the facets describe, open when no properties are listed. -/
def object (f : Facets) : Schema :=
  match f.properties with
  | some properties => .object properties f.required f.description
  | none => .openObject f.required f.description

/-- The combination under one keyword, if it has members. -/
def combination? (f : Facets) (combinator : Combinator) : Option Schema :=
  if (f.members combinator).isEmpty then none
  else some (.composite combinator (f.members combinator) f.description)

/-- The combination that the facets describe: the first keyword with members. -/
def composite? (f : Facets) : Option Schema :=
  Combinator.all.findSome? f.combination?

/-- A closed choice that the facets describe has the listed variants, and there are some. -/
theorem of_enumeration?_eq_some {f : Facets} {schema : Schema} (h : f.enumeration? = some schema) :
    f.variants ≠ [] ∧ schema = .enumeration f.variants f.comments f.description := by
  unfold enumeration? at h
  split at h
  · cases h
  · rename_i hvariants
    cases h
    exact ⟨by simpa using hvariants, rfl⟩

/-- A combination that the facets describe has the members under one of the keywords, and there are some. -/
theorem of_composite?_eq_some {f : Facets} {schema : Schema} (h : f.composite? = some schema) :
    ∃ combinator, f.members combinator ≠ [] ∧
      schema = .composite combinator (f.members combinator) f.description := by
  obtain ⟨combinator, _, hcombination⟩ := List.exists_of_findSome?_eq_some h
  unfold combination? at hcombination
  split at hcombination
  · cases hcombination
  · rename_i hmembers
    cases hcombination
    exact ⟨combinator, by simpa using hmembers, rfl⟩

/-- The schema of the facets inside a type. -/
def fragment (f : Facets) : Schema :=
  match f.pointer with
  | some pointer => .reference pointer f.description
  | none =>
    match f.array? with
    | some array => array
    | none =>
      match f.enumeration? with
      | some enumeration => enumeration
      | none =>
        match f.primitive? with
        | some primitive => primitive
        | none =>
          if f.type = some "object" then f.object
          else f.composite?.getD (.unstructured f.description)

/-- The schema of the facets of a named definition. -/
def definition (f : Facets) : Schema :=
  match f.enumeration? with
  | some enumeration => enumeration
  | none =>
    match f.composite? with
    | some composite => composite
    | none =>
      match f.properties with
      | some _ => f.object
      | none => .unstructured f.description

end Facets

/-! ## Facets without schemas inside -/

namespace Schema

/-- The variants listed in a mapping, each spelled out as text. -/
def variantsIn (entries : Entries) : List String :=
  match Value.lookup "x-enum-varnames" entries with
  | some (.list items) => items.map Value.spelling
  | _ => []

/-- The comment that an entry notes: a text that is not empty, under the spelled-out key. -/
def commentOf : Scalar × Value → Option (String × String)
  | (key, .scalar (.text comment)) => if comment = "" then none else some (key.spelling, comment)
  | _ => none

/-- The comments on variants in a mapping. -/
def commentsIn (entries : Entries) : List (String × String) :=
  match Value.lookup "x-enum-comments" entries with
  | some (.mapping comments) => comments.filterMap commentOf
  | _ => []

/-- The names required in a mapping: the texts of its list. -/
def requiredIn (entries : Entries) : NameSet :=
  match Value.lookup "required" entries with
  | some (.list names) => NameSet.ofList (names.filterMap Value.text?)
  | _ => ∅

/-- The facets of a mapping, given the schemas read from inside it. -/
def facetsWith (entries : Entries) (items : Option Schema) (properties : Option (List (String × Schema)))
    (members : Combinator → List Schema) : Facets where
  pointer := Value.nonemptyText? "$ref" entries
  type := (Value.lookup "type" entries).bind Value.text?
  items := items
  variants := variantsIn entries
  comments := commentsIn entries
  properties := properties
  required := requiredIn entries
  members := members
  description := Value.nonemptyText? "description" entries

/-! ## Schemas inside schemas -/

mutual

/-- The schema that a value describes inside a type. -/
def ofValue : Value → Schema
  | .mapping entries =>
    (facetsWith entries (itemsIn entries) (propertiesIn entries) fun combinator =>
      membersIn combinator.keyword entries).fragment
  | _ => .unstructured none

/-- The schema under the keyword `items`, if one is given there. -/
def itemsIn : List (Scalar × Value) → Option Schema
  | [] => none
  | (key, value) :: rest =>
    if key = .text "items" then (if value.isGiven then some (ofValue value) else none) else itemsIn rest

/-- The properties under the keyword `properties`, if a mapping stands there. -/
def propertiesIn : List (Scalar × Value) → Option (List (String × Schema))
  | [] => none
  | (key, value) :: rest => if key = .text "properties" then propertiesOf value else propertiesIn rest

/-- The properties that a mapping lists. -/
def propertiesOf : Value → Option (List (String × Schema))
  | .mapping entries => some (readProperties entries)
  | _ => none

/-- The schemas of the entries of a mapping, under their spelled-out keys. -/
def readProperties : List (Scalar × Value) → List (String × Schema)
  | [] => []
  | (key, value) :: rest => (key.spelling, ofValue value) :: readProperties rest

/-- The members under a keyword, if a list stands there. -/
def membersIn (keyword : String) : List (Scalar × Value) → List Schema
  | [] => []
  | (key, value) :: rest => if key = .text keyword then membersOf value else membersIn keyword rest

/-- The members that a list holds. -/
def membersOf : Value → List Schema
  | .list items => readMembers items
  | _ => []

/-- The schemas of the items of a list. -/
def readMembers : List Value → List Schema
  | [] => []
  | item :: rest => ofValue item :: readMembers rest

end

/-- The facets of a schema mapping. -/
def facets (entries : Entries) : Facets :=
  facetsWith entries (itemsIn entries) (propertiesIn entries) fun combinator => membersIn combinator.keyword entries

/-- The schema that a value describes as a named definition of a document. -/
def ofDefinition : Value → Schema
  | .mapping entries => (facets entries).definition
  | _ => .unstructured none

/-! ## The readings as look-ups -/

@[simp] theorem ofValue_mapping (entries : Entries) : ofValue (.mapping entries) = (facets entries).fragment := rfl

@[simp] theorem ofDefinition_mapping (entries : Entries) :
    ofDefinition (.mapping entries) = (facets entries).definition := rfl

theorem readProperties_eq_map (entries : Entries) :
    readProperties entries = entries.map fun entry => (entry.1.spelling, ofValue entry.2) := by
  induction entries with
  | nil => rfl
  | cons entry rest ih =>
      obtain ⟨key, value⟩ := entry
      simp [readProperties, ih]

theorem readMembers_eq_map (items : List Value) : readMembers items = items.map ofValue := by
  induction items with
  | nil => rfl
  | cons item rest ih => simp [readMembers, ih]

/-- The schema under `items` is the reading of the value that stands there. -/
theorem itemsIn_eq (entries : Entries) :
    itemsIn entries = (Value.lookup "items" entries).bind fun value =>
      if value.isGiven then some (ofValue value) else none := by
  induction entries with
  | nil => rfl
  | cons entry rest ih =>
      obtain ⟨key, value⟩ := entry
      by_cases h : key = .text "items" <;> simp [itemsIn, Value.lookup, h, ih]

/-- The properties are the readings of the entries of the mapping under `properties`. -/
theorem propertiesIn_eq (entries : Entries) :
    propertiesIn entries = (Value.lookup "properties" entries).bind propertiesOf := by
  induction entries with
  | nil => rfl
  | cons entry rest ih =>
      obtain ⟨key, value⟩ := entry
      by_cases h : key = .text "properties" <;> simp [propertiesIn, Value.lookup, h, ih]

/-- The members are the readings of the items of the list under the keyword. -/
theorem membersIn_eq (keyword : String) (entries : Entries) :
    membersIn keyword entries = ((Value.lookup keyword entries).map membersOf).getD [] := by
  induction entries with
  | nil => rfl
  | cons entry rest ih =>
      obtain ⟨key, value⟩ := entry
      by_cases h : key = .text keyword <;> simp [membersIn, Value.lookup, h, ih]

end Schema

end ApiTypes
