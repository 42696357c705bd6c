/-
# Keys of mappings

A mapping has no two entries under one key: whoever writes under a key that is there writes over what stood there.  The
order of its entries does therefore not matter for what is found under a key.

* `Value.Distinct`, `Value.Keyed`: the keys of a mapping, and of all mappings in a value.
* `Value.distinct_put`, `Value.keyed_put`: writing under a key keeps the keys distinct.
* `Value.lookup_perm`: look-ups do not depend on the order of the entries.
-/
import ApiTypes.Proofs.Schema.WellFormed

namespace ApiTypes.Value

/-! ## Distinct keys -/

/-- Whether no two entries have the same key. -/
def Distinct (entries : Entries) : Prop :=
  (entries.map Prod.fst).Pairwise fun key other => key.sameKey other = false

instance : DecidablePred Distinct := fun entries =>
  inferInstanceAs (Decidable ((entries.map Prod.fst).Pairwise fun key other => key.sameKey other = false))

/-- Whether in all mappings of a value no two entries have the same key. -/
inductive Keyed : Value → Prop
  | scalar (s : Scalar) : Keyed (.scalar s)
  | list {items : List Value} (inner : ∀ item ∈ items, Keyed item) : Keyed (.list items)
  | mapping {entries : List (Scalar × Value)} (distinct : Distinct entries) (inner : ∀ entry ∈ entries, Keyed entry.2) :
      Keyed (.mapping entries)
  | set (members : List Scalar) : Keyed (.set members)

/-- Writing under a key leaves the keys as they are, or the key comes behind all others. -/
theorem map_fst_put (key : Scalar) (value : Value) (entries : Entries) :
    (put key value entries).map Prod.fst = entries.map Prod.fst ∨
      (put key value entries).map Prod.fst = entries.map Prod.fst ++ [key] ∧
        ∀ other ∈ entries.map Prod.fst, other.sameKey key = false := by
  induction entries with
  | nil => exact .inr ⟨rfl, nofun⟩
  | cons entry rest ih =>
      obtain ⟨k, v⟩ := entry
      rw [put]
      cases hkey : k.sameKey key with
      | true => exact .inl rfl
      | false =>
          show k :: (put key value rest).map Prod.fst = _ ∨ k :: (put key value rest).map Prod.fst = _ ∧ _
          rcases ih with hsame | ⟨hbehind, hothers⟩
          · left
            rw [hsame, List.map_cons]
          · right
            constructor
            · rw [hbehind, List.map_cons, List.cons_append]
            · exact List.forall_mem_cons.mpr ⟨hkey, hothers⟩

/-- Writing under a key keeps the keys distinct. -/
theorem distinct_put {entries : Entries} (h : Distinct entries) (key : Scalar) (value : Value) :
    Distinct (put key value entries) := by
  rw [Distinct]
  rcases map_fst_put key value entries with hsame | ⟨hbehind, hothers⟩
  · rw [hsame]
    exact h
  · rw [hbehind]
    refine List.pairwise_append.mpr ⟨h, List.pairwise_singleton _ _, ?_⟩
    intro other hother last hlast
    rw [List.mem_singleton.mp hlast]
    exact hothers other hother

/-- A value that is written comes to stand in the mapping, and the other values stood there before. -/
theorem mem_put {key : Scalar} {value : Value} {entries : Entries} {entry : Scalar × Value}
    (h : entry ∈ put key value entries) : entry.2 = value ∨ entry ∈ entries := by
  induction entries with
  | nil =>
      left
      rw [List.mem_singleton.mp h]
  | cons first rest ih =>
      obtain ⟨k, v⟩ := first
      rw [put] at h
      split at h
      · rcases List.mem_cons.mp h with rfl | hrest
        · exact .inl rfl
        · exact .inr (List.mem_cons_of_mem _ hrest)
      · rcases List.mem_cons.mp h with rfl | hrest
        · exact .inr List.mem_cons_self
        · rcases ih hrest with hvalue | hmem
          · exact .inl hvalue
          · exact .inr (List.mem_cons_of_mem _ hmem)

/-- Writing a value into a mapping keeps all keys distinct, in the mapping and inside. -/
theorem keyed_put {entries : Entries} (h : (mapping entries).Keyed) (key : Scalar) {value : Value}
    (hvalue : value.Keyed) : (mapping (put key value entries)).Keyed := by
  cases h with
  | mapping distinct inner =>
      refine .mapping (distinct_put distinct key value) ?_
      intro entry hentry
      rcases mem_put hentry with hwritten | hbefore
      · rw [hwritten]
        exact hvalue
      · exact inner entry hbefore

/-! ## Look-ups -/

/-- Nothing is found under a key exactly when no entry has it. -/
theorem lookup_eq_none_iff {name : String} {entries : Entries} :
    lookup name entries = none ↔ ∀ entry ∈ entries, entry.1 ≠ .text name := by
  induction entries with
  | nil => simp
  | cons entry rest ih =>
      obtain ⟨key, value⟩ := entry
      rw [lookup, List.forall_mem_cons, ← ih]
      by_cases hkey : key = .text name <;> simp [hkey]

/-- With distinct keys, what stands under a key is found there. -/
theorem Distinct.lookup_of_mem {name : String} {value : Value} {entries : Entries} (h : Distinct entries)
    (hmem : (.text name, value) ∈ entries) : lookup name entries = some value := by
  induction entries with
  | nil => cases hmem
  | cons entry rest ih =>
      obtain ⟨key, other⟩ := entry
      obtain ⟨hfirst, hrest⟩ := List.pairwise_cons.mp h
      rw [lookup]
      rcases List.mem_cons.mp hmem with heq | hlater
      · cases heq
        rw [if_pos rfl]
      · have hkey : key ≠ .text name := by
          rintro rfl
          have hsame := hfirst (.text name) (List.mem_map.mpr ⟨(.text name, value), hlater, rfl⟩)
          simp at hsame
        rw [if_neg hkey]
        exact ih hrest hlater

/-- **Look-ups** do not depend on the order of the entries. -/
theorem lookup_perm {entries others : Entries} (h : Distinct entries) (hperm : entries.Perm others) (name : String) :
    lookup name entries = lookup name others := by
  cases hothers : lookup name others with
  | some value => exact h.lookup_of_mem (hperm.mem_iff.mpr (mem_of_lookup hothers))
  | none =>
      rw [lookup_eq_none_iff] at hothers ⊢
      intro entry hentry
      exact hothers entry (hperm.mem_iff.mp hentry)

end ApiTypes.Value
