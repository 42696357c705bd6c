/-
# Keywords of schemas

A schema is read from its keywords alone.  What stands under other keys does not matter, nor does the order of the keys, and
of the names that an object requires only the set of the texts counts.  This holds at every depth at once, wherever a schema
may stand: under `items`, under the keys of `properties` and among members.

Under `properties` the keys are names and no keywords: all of them stay, also one that is spelled like a keyword, and so does
their order.

* `Tidies`: what may be left out of a schema, and moved in it.
* `ReadsTidied`: a value is read in the same way after it is tidied, whichever way it is read.
* `Schema.ofValue_eq_of_tidies`: both readings of a schema stay the same.
-/
import ApiTypes.Proofs.Files.Loading
import ApiTypes.Proofs.Schema.Canonical
import Mathlib.Data.List.Sort

namespace ApiTypes

/-! ## Sets of names -/

/-- Two sets with the same names are equal. -/
theorem NameSet.eq_of_mem_iff {set other : NameSet} (h : ∀ name, name ∈ set ↔ name ∈ other) : set = other := by
  have hperm : set.names.Perm other.names :=
    (List.perm_ext_iff_of_nodup set.nodup_names other.nodup_names).mpr h
  have hnames : set.names = other.names := by
    apply hperm.eq_of_pairwise ?_ set.increasing other.increasing
    intro first second _ _ hlt hgt
    exact absurd hgt (String.lt_asymm hlt)
  cases set
  cases other
  rw [NameSet.mk.injEq]
  exact hnames

/-! ## What may be left out and moved -/

namespace Schema

/-- The keywords of schemas. -/
def keywords : List String :=
  ["$ref", "type", "items", "x-enum-varnames", "x-enum-comments", "properties", "required", "allOf", "oneOf", "anyOf",
    "description"]

mutual

/-- In a schema: entries under other keys than the keywords are left out, what stands under keywords is tidied, and the
entries are put into another order. -/
inductive Tidies : Value → Value → Prop
  | mapping {entries kept others : List (Scalar × Value)} (hkept : TidiesEntries entries kept)
      (hperm : kept.Perm others) : Tidies (.mapping entries) (.mapping others)
  | same (value : Value) : Tidies value value

/-- In the entries of a schema. -/
inductive TidiesEntries : List (Scalar × Value) → List (Scalar × Value) → Prop
  | nil : TidiesEntries [] []
  | drop {key : Scalar} {value : Value} {entries kept : List (Scalar × Value)}
      (hkey : ∀ keyword ∈ keywords, key ≠ .text keyword) (hrest : TidiesEntries entries kept) :
      TidiesEntries ((key, value) :: entries) kept
  | keep {key : Scalar} {value other : Value} {entries kept : List (Scalar × Value)}
      (hvalue : TidiesUnder key value other) (hrest : TidiesEntries entries kept) :
      TidiesEntries ((key, value) :: entries) ((key, other) :: kept)

/-- Under a key of a schema: the schemas that stand there are tidied, and of required names those that are no texts or
stand more than once are left out. -/
inductive TidiesUnder : Scalar → Value → Value → Prop
  | items {value other : Value} (h : Tidies value other) : TidiesUnder (.text "items") value other
  | properties {entries others : List (Scalar × Value)} (h : TidiesProperties entries others) :
      TidiesUnder (.text "properties") (.mapping entries) (.mapping others)
  | members (combinator : Combinator) {items others : List Value} (h : TidiesMembers items others) :
      TidiesUnder (.text combinator.keyword) (.list items) (.list others)
  | required {names others : List Value} (hsublist : others.Sublist names)
      (htexts : ∀ name, .scalar (.text name) ∈ names → .scalar (.text name) ∈ others) :
      TidiesUnder (.text "required") (.list names) (.list others)
  | same (key : Scalar) (value : Value) : TidiesUnder key value value

/-- In the properties of an object, whose keys stay as they are. -/
inductive TidiesProperties : List (Scalar × Value) → List (Scalar × Value) → Prop
  | nil : TidiesProperties [] []
  | cons (key : Scalar) {value other : Value} {entries others : List (Scalar × Value)} (h : Tidies value other)
      (hrest : TidiesProperties entries others) : TidiesProperties ((key, value) :: entries) ((key, other) :: others)

/-- In the members of a combination. -/
inductive TidiesMembers : List Value → List Value → Prop
  | nil : TidiesMembers [] []
  | cons {value other : Value} {items others : List Value} (h : Tidies value other)
      (hrest : TidiesMembers items others) : TidiesMembers (value :: items) (other :: others)

end

/-! ## Under each keyword -/

namespace TidiesUnder

variable {value other : Value}

/-- Under a keyword without schemas or required names everything stays. -/
theorem eq_of_plain {keyword : String} (h : TidiesUnder (.text keyword) value other)
    (hplain : keyword ∈ ["$ref", "type", "x-enum-varnames", "x-enum-comments", "description"]) : value = other := by
  generalize hkey : Scalar.text keyword = key at h
  cases h with
  | same => rfl
  | items =>
      cases hkey
      exact absurd hplain (by decide)
  | properties =>
      cases hkey
      exact absurd hplain (by decide)
  | members combinator =>
      cases hkey
      exact absurd hplain (by cases combinator <;> decide)
  | required =>
      cases hkey
      exact absurd hplain (by decide)

theorem tidies_of_items (h : TidiesUnder (.text "items") value other) : Tidies value other := by
  generalize hkey : Scalar.text "items" = key at h
  cases h with
  | same => exact .same value
  | items h => exact h
  | properties => exact absurd hkey (by decide)
  | members combinator => exact absurd hkey (by cases combinator <;> decide)
  | required => exact absurd hkey (by decide)

theorem cases_of_properties (h : TidiesUnder (.text "properties") value other) :
    value = other ∨ ∃ entries others, value = .mapping entries ∧ other = .mapping others ∧
      TidiesProperties entries others := by
  generalize hkey : Scalar.text "properties" = key at h
  cases h with
  | same => exact .inl rfl
  | properties h => exact .inr ⟨_, _, rfl, rfl, h⟩
  | items => exact absurd hkey (by decide)
  | members combinator => exact absurd hkey (by cases combinator <;> decide)
  | required => exact absurd hkey (by decide)

theorem cases_of_members {combinator : Combinator} (h : TidiesUnder (.text combinator.keyword) value other) :
    value = other ∨ ∃ items others, value = .list items ∧ other = .list others ∧ TidiesMembers items others := by
  generalize hkey : Scalar.text combinator.keyword = key at h
  cases h with
  | same => exact .inl rfl
  | members _ h => exact .inr ⟨_, _, rfl, rfl, h⟩
  | items => exact absurd hkey (by cases combinator <;> decide)
  | properties => exact absurd hkey (by cases combinator <;> decide)
  | required => exact absurd hkey (by cases combinator <;> decide)

theorem cases_of_required (h : TidiesUnder (.text "required") value other) :
    value = other ∨ ∃ names others : List Value, value = .list names ∧ other = .list others ∧ others.Sublist names ∧
      ∀ name, .scalar (.text name) ∈ names → .scalar (.text name) ∈ others := by
  generalize hkey : Scalar.text "required" = key at h
  cases h with
  | same => exact .inl rfl
  | required hsublist htexts => exact .inr ⟨_, _, rfl, rfl, hsublist, htexts⟩
  | items => exact absurd hkey (by decide)
  | properties => exact absurd hkey (by decide)
  | members combinator => exact absurd hkey (by cases combinator <;> decide)

end TidiesUnder

/-- A given value stays given: a mapping counts also when nothing is left in it. -/
theorem Tidies.isGiven_eq {value other : Value} (h : Tidies value other) : value.isGiven = other.isGiven := by
  cases h with
  | mapping => rfl
  | same => rfl

/-! ## Look-ups -/

/-- The required names are the texts among the items of the list. -/
theorem requiredIn_eq_elim (entries : Entries) :
    requiredIn entries =
      ((Value.lookup "required" entries).bind Value.items?).elim ∅ fun names =>
        NameSet.ofList (names.filterMap Value.text?) := by
  rw [requiredIn]
  cases Value.lookup "required" entries with
  | none => rfl
  | some value => cases value <;> rfl

namespace TidiesEntries

variable {entries kept : Entries}

/-- What is read under a keyword does not change if it is read alike from what was tidied there. -/
theorem lookup_congr {β : Type} (h : TidiesEntries entries kept) {keyword : String} (hkeyword : keyword ∈ keywords)
    {g : Option Value → β} (hg : ∀ value other, (.text keyword, value) ∈ entries →
      TidiesUnder (.text keyword) value other → g (some value) = g (some other)) :
    g (Value.lookup keyword entries) = g (Value.lookup keyword kept) := by
  induction entries generalizing kept with
  | nil =>
      cases h
      rfl
  | cons entry rest ih =>
      have hlater : ∀ value other, (.text keyword, value) ∈ rest → TidiesUnder (.text keyword) value other →
          g (some value) = g (some other) := by
        intro value other hmem
        exact hg value other (List.mem_cons_of_mem _ hmem)
      cases h with
      | drop hkey hrest =>
          rw [Value.lookup, if_neg (hkey keyword hkeyword)]
          exact ih hrest hlater
      | keep hvalue hrest =>
          rename_i key value other kept
          rw [Value.lookup, Value.lookup]
          by_cases hkey : key = .text keyword
          · subst hkey
            rw [if_pos rfl, if_pos rfl]
            exact hg value other List.mem_cons_self hvalue
          · rw [if_neg hkey, if_neg hkey]
            exact ih hrest hlater

/-- The keys that are kept are still distinct. -/
theorem distinct (h : TidiesEntries entries kept) (hdistinct : Value.Distinct entries) : Value.Distinct kept := by
  have hsublist : (kept.map Prod.fst).Sublist (entries.map Prod.fst) := by
    clear hdistinct
    induction entries generalizing kept with
    | nil =>
        cases h
        exact List.Sublist.slnil
    | cons entry rest ih =>
        cases h with
        | drop _ hrest => exact (ih hrest).cons _
        | keep _ hrest => exact (ih hrest).cons_cons _
  exact List.Pairwise.sublist hsublist hdistinct

/-- Under a keyword without schemas or required names the same is found. -/
theorem lookup_eq (h : TidiesEntries entries kept) {keyword : String}
    (hplain : keyword ∈ ["$ref", "type", "x-enum-varnames", "x-enum-comments", "description"]) :
    Value.lookup keyword entries = Value.lookup keyword kept := by
  have hkeyword : keyword ∈ keywords := by
    revert keyword
    decide
  apply h.lookup_congr hkeyword (g := id)
  intro value other _ hvalue
  rw [hvalue.eq_of_plain hplain]

/-- The required names are the same set. -/
theorem requiredIn_eq (h : TidiesEntries entries kept) : requiredIn entries = requiredIn kept := by
  rw [requiredIn_eq_elim, requiredIn_eq_elim]
  refine h.lookup_congr (by decide : "required" ∈ keywords) (g := fun found =>
    (found.bind Value.items?).elim ∅ fun names => NameSet.ofList (names.filterMap Value.text?)) ?_
  intro value other _ hvalue
  rcases hvalue.cases_of_required with rfl | ⟨names, others, rfl, rfl, hsublist, htexts⟩
  · rfl
  · apply NameSet.eq_of_mem_iff
    intro name
    show name ∈ NameSet.ofList (names.filterMap Value.text?) ↔ name ∈ NameSet.ofList (others.filterMap Value.text?)
    rw [NameSet.mem_ofList, NameSet.mem_ofList, Value.mem_filterMap_text?_iff, Value.mem_filterMap_text?_iff]
    exact ⟨htexts name, fun hmem => hsublist.mem hmem⟩

end TidiesEntries

/-! ## Reading at every depth -/

/-- A value is read in the same way after it is tidied, whichever way it is read: as a schema, as a mapping of properties or
as a list of members. -/
structure ReadsTidied (value : Value) : Prop where
  schema : ∀ other, Tidies value other → ofValue value = ofValue other
  properties : ∀ entries others, value = .mapping entries → TidiesProperties entries others →
    readProperties entries = readProperties others
  members : ∀ items others, value = .list items → TidiesMembers items others → readMembers items = readMembers others

namespace ReadsTidied

variable {entries kept : Entries} (hvalues : ∀ entry ∈ entries, ReadsTidied entry.2) (h : TidiesEntries entries kept)
include hvalues h

theorem itemsIn_eq_of_tidies : itemsIn entries = itemsIn kept := by
  rw [itemsIn_eq, itemsIn_eq]
  apply h.lookup_congr (by decide : "items" ∈ keywords)
    (g := fun found => found.bind fun value => if value.isGiven then some (ofValue value) else none)
  intro value other hmem hvalue
  have htidies : Tidies value other := hvalue.tidies_of_items
  show (if value.isGiven then some (ofValue value) else none) = if other.isGiven then some (ofValue other) else none
  rw [htidies.isGiven_eq, (hvalues _ hmem).schema other htidies]

theorem propertiesIn_eq_of_tidies : propertiesIn entries = propertiesIn kept := by
  rw [propertiesIn_eq, propertiesIn_eq]
  apply h.lookup_congr (by decide : "properties" ∈ keywords) (g := fun found => found.bind propertiesOf)
  intro value other hmem hvalue
  rcases hvalue.cases_of_properties with rfl | ⟨properties, others, rfl, rfl, htidies⟩
  · rfl
  · show some (readProperties properties) = some (readProperties others)
    rw [(hvalues _ hmem).properties properties others rfl htidies]

theorem membersIn_eq_of_tidies (combinator : Combinator) :
    membersIn combinator.keyword entries = membersIn combinator.keyword kept := by
  have hkeyword : combinator.keyword ∈ keywords := by cases combinator <;> decide
  rw [membersIn_eq, membersIn_eq]
  apply h.lookup_congr hkeyword (g := fun found => (found.map membersOf).getD [])
  intro value other hmem hvalue
  rcases hvalue.cases_of_members with rfl | ⟨items, others, rfl, rfl, htidies⟩
  · rfl
  · exact (hvalues _ hmem).members items others rfl htidies

/-- The facets of a mapping stay the same, if what stands in it is read in the same way. -/
theorem facets_eq_of_tidies : facets entries = facets kept := by
  have hmembers := membersIn_eq_of_tidies hvalues h
  simp only [facets, facetsWith, itemsIn_eq_of_tidies hvalues h, propertiesIn_eq_of_tidies hvalues h, hmembers,
    h.requiredIn_eq, variantsIn, commentsIn, Value.nonemptyText?, h.lookup_eq (by decide : "$ref" ∈ _),
    h.lookup_eq (by decide : "type" ∈ _), h.lookup_eq (by decide : "x-enum-varnames" ∈ _),
    h.lookup_eq (by decide : "x-enum-comments" ∈ _), h.lookup_eq (by decide : "description" ∈ _)]

end ReadsTidied

/-- The order of the entries does not matter for the facets. -/
theorem facets_perm {entries others : Entries} (h : Value.Distinct entries) (hperm : entries.Perm others) :
    facets entries = facets others := by
  have hlookup : ∀ name, Value.lookup name entries = Value.lookup name others := Value.lookup_perm h hperm
  rw [facets_eq_of_lookup fun name _ => hlookup name, Value.nonemptyText?, hlookup "description"]
  rfl

theorem readProperties_eq_of_tidies {entries others : Entries} (hvalues : ∀ entry ∈ entries, ReadsTidied entry.2)
    (h : TidiesProperties entries others) : readProperties entries = readProperties others := by
  induction entries generalizing others with
  | nil =>
      cases h
      rfl
  | cons entry rest ih =>
      obtain ⟨hentry, hrest⟩ := List.forall_mem_cons.mp hvalues
      cases h with
      | cons key hvalue hothers => rw [readProperties, readProperties, hentry.schema _ hvalue, ih hrest hothers]

theorem readMembers_eq_of_tidies {items others : List Value} (hvalues : ∀ item ∈ items, ReadsTidied item)
    (h : TidiesMembers items others) : readMembers items = readMembers others := by
  induction items generalizing others with
  | nil =>
      cases h
      rfl
  | cons item rest ih =>
      obtain ⟨hitem, hrest⟩ := List.forall_mem_cons.mp hvalues
      cases h with
      | cons hvalue hothers => rw [readMembers, readMembers, hitem.schema _ hvalue, ih hrest hothers]

theorem readsTidied {value : Value} (h : value.Keyed) : ReadsTidied value := by
  -- the induction is on the value; a mapping asks for what stands under its keys in all three ways
  induction h with
  | scalar s =>
      refine ⟨?_, nofun, nofun⟩
      intro other h
      cases h
      rfl
  | set members =>
      refine ⟨?_, nofun, nofun⟩
      intro other h
      cases h
      rfl
  | list _ ih =>
      refine ⟨?_, nofun, ?_⟩
      · intro other h
        cases h
        rfl
      · rintro items others ⟨⟩ h
        exact readMembers_eq_of_tidies ih h
  | mapping distinct _ ih =>
      refine ⟨?_, ?_, nofun⟩
      · intro other h
        cases h with
        | same => rfl
        | mapping hkept hperm =>
            rw [ofValue_mapping, ofValue_mapping, ReadsTidied.facets_eq_of_tidies ih hkept,
              facets_perm (hkept.distinct distinct) hperm]
      · rintro entries others ⟨⟩ h
        exact readProperties_eq_of_tidies ih h

/-- **Keywords alone.**  A schema that is tidied at every depth is read as before, inside a type and as a definition, if no
mapping has two entries under one key.  This is so for all documents that are loaded. -/
theorem ofValue_eq_of_tidies :
    (∀ value other : Value, value.Keyed → Tidies value other →
      ofValue value = ofValue other ∧ ofDefinition value = ofDefinition other) ∧
    ∀ (tree : FileTree) (path : Path) (entries : Entries), tree.loadDocument path = .ok entries →
      (Value.mapping entries).Keyed := by
  constructor
  · intro value other hkeyed h
    constructor
    · exact (readsTidied hkeyed).schema other h
    · cases h with
      | same => rfl
      | mapping hkept hperm =>
          cases hkeyed with
          | mapping distinct inner =>
              rw [ofDefinition_mapping, ofDefinition_mapping,
                ReadsTidied.facets_eq_of_tidies (fun entry hentry => readsTidied (inner entry hentry)) hkept,
                facets_perm (hkept.distinct distinct) hperm]
  · intro tree path entries h
    exact FileTree.keyed_of_loadDocument h

/-- An object with properties that are spelled like keywords: inside the list that one of them is, the items lose all that
they have and still count. -/
theorem ofValue_eq_of_tidies_items :
    let text := fun s => Value.scalar (.text s)
    let items : Value := .mapping [(.text "example", .scalar (.int 1))]
    let listed : Value := .mapping [(.text "items", items), (.int 3, .scalar .null), (.text "type", text "array")]
    let value : Value := .mapping [(.text "required", .list [text "items", .scalar (.int 7), text "items"]),
      (.text "title", text "Order"), (.text "properties", .mapping [(.text "items", listed)]), (.text "type", text "object")]
    let tidy : Value := .mapping [(.text "type", text "object"), (.text "properties", .mapping
      [(.text "items", .mapping [(.text "type", text "array"), (.text "items", .mapping [])])]),
      (.text "required", .list [text "items"])]
    value.Keyed ∧ Tidies value tidy ∧ ofValue value = ofValue tidy ∧ ofDefinition value = ofDefinition tidy := by
  intro text items listed value tidy
  have hitems : items.Keyed := .mapping (by decide) (by simp [Value.Keyed.scalar])
  have hlisted : listed.Keyed := .mapping (by decide) (by simp [Value.Keyed.scalar, text, hitems])
  have hproperties : (Value.mapping [(.text "items", listed)]).Keyed := .mapping (by decide) (by simp [hlisted])
  have hrequired : (Value.list [text "items", .scalar (.int 7), text "items"]).Keyed :=
    .list (by simp [Value.Keyed.scalar, text])
  have hvalue : value.Keyed := .mapping (by decide) (by simp [Value.Keyed.scalar, text, hproperties, hrequired])
  have hlist : Tidies listed (.mapping [(.text "type", text "array"), (.text "items", .mapping [])]) :=
    .mapping (.keep (.items (.mapping (.drop (by decide) .nil) .nil)) (.drop (by decide) (.keep (.same _ _) .nil)))
      (List.Perm.swap _ _ _)
  have htidies : Tidies value tidy := by
    have hsublist : [text "items"].Sublist [text "items", .scalar (.int 7), text "items"] :=
      List.singleton_sublist.mpr List.mem_cons_self
    refine .mapping (.keep (.required hsublist (by simp [text])) (.drop (by decide)
      (.keep (.properties (.cons _ hlist .nil)) (.keep (.same _ _) .nil)))) ?_
    exact (List.reverse_perm _).symm
  obtain ⟨hschema, hdefinition⟩ := ofValue_eq_of_tidies.1 value tidy hvalue htidies
  exact ⟨hvalue, htidies, hschema, hdefinition⟩

end Schema

end ApiTypes
