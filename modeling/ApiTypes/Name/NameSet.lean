/-
# Sets of names

A finite set of strings kept as a strictly increasing list, so that two sets with the same names are equal and the
names are listed in order of code points.

`mem_insert` says what insertion does to the members, `size_insert` what it does to their number.
-/
namespace ApiTypes

/-- A finite set of names: its names in strictly increasing order. -/
structure NameSet where
  names : List String
  increasing : names.Pairwise (· < ·)
  deriving DecidableEq

namespace NameSet

/-! ## Insertion into an increasing list -/

/-- Puts a name at its place in an increasing list, unless it is there already. -/
def insertName (name : String) : List String → List String
  | [] => [name]
  | first :: rest =>
    if name < first then name :: first :: rest
    else if name = first then first :: rest
    else first :: insertName name rest

theorem mem_insertName {name m : String} {names : List String} :
    m ∈ insertName name names ↔ m = name ∨ m ∈ names := by
  induction names with
  | nil => simp [insertName]
  | cons first rest ih =>
    unfold insertName
    split
    · simp
    · split
      · rename_i _ h
        simp [h]
      · simp only [List.mem_cons, ih]
        exact ⟨fun h => by rcases h with h | h | h <;> simp [h], fun h => by rcases h with h | h | h <;> simp [h]⟩

theorem increasing_insertName {name : String} {names : List String} (h : names.Pairwise (· < ·)) :
    (insertName name names).Pairwise (· < ·) := by
  induction names with
  | nil => simp [insertName]
  | cons first rest ih =>
    have hfirst := (List.pairwise_cons.1 h).1
    have hrest := (List.pairwise_cons.1 h).2
    unfold insertName
    split
    · rename_i hlt
      refine List.pairwise_cons.2 ⟨fun m hm => ?_, h⟩
      rcases List.mem_cons.1 hm with rfl | hm
      · exact hlt
      · exact String.lt_trans hlt (hfirst m hm)
    · split
      · exact h
      · rename_i hnlt hne
        refine List.pairwise_cons.2 ⟨fun m hm => ?_, ih hrest⟩
        rcases mem_insertName.1 hm with rfl | hm
        · exact Std.lt_of_le_of_ne (Std.not_lt.1 hnlt) (Ne.symm hne)
        · exact hfirst m hm

theorem length_insertName {name : String} {names : List String} (h : names.Pairwise (· < ·)) :
    (insertName name names).length = if name ∈ names then names.length else names.length + 1 := by
  induction names with
  | nil => simp [insertName]
  | cons first rest ih =>
    have hfirst := (List.pairwise_cons.1 h).1
    have hrest := (List.pairwise_cons.1 h).2
    unfold insertName
    split
    · rename_i hlt
      have hne : name ≠ first := fun e => by subst e; exact String.lt_irrefl _ hlt
      have hmem : name ∉ rest := fun hm => String.lt_irrefl _ (String.lt_trans hlt (hfirst name hm))
      simp [hne, hmem]
    · split
      · rename_i _ he
        simp [he]
      · rename_i hnlt hne
        simp only [List.length_cons, ih hrest, List.mem_cons, hne, false_or]
        split <;> rfl

/-! ## The set -/

/-- The set without names. -/
def empty : NameSet := ⟨[], List.Pairwise.nil⟩

instance : EmptyCollection NameSet := ⟨empty⟩

instance : Membership String NameSet := ⟨fun set name => name ∈ set.names⟩

instance (name : String) (set : NameSet) : Decidable (name ∈ set) :=
  inferInstanceAs (Decidable (name ∈ set.names))

/-- The set with one more name. -/
def insert (set : NameSet) (name : String) : NameSet :=
  ⟨insertName name set.names, increasing_insertName set.increasing⟩

/-- The set of the names in a list. -/
def ofList (names : List String) : NameSet :=
  names.foldl insert empty

/-- How many names the set has. -/
def size (set : NameSet) : Nat := set.names.length

theorem mem_def {name : String} {set : NameSet} : name ∈ set ↔ name ∈ set.names := Iff.rfl

@[simp] theorem not_mem_empty (name : String) : name ∉ (∅ : NameSet) := by
  intro h
  cases mem_def.1 h

@[simp] theorem mem_insert {name m : String} {set : NameSet} : m ∈ set.insert name ↔ m = name ∨ m ∈ set :=
  mem_insertName

theorem size_insert (set : NameSet) (name : String) :
    (set.insert name).size = if name ∈ set then set.size else set.size + 1 :=
  length_insertName set.increasing

theorem nodup_names (set : NameSet) : set.names.Nodup :=
  set.increasing.imp fun h e => by subst e; exact String.lt_irrefl _ h

theorem mem_foldl_insert {names : List String} {m : String} {set : NameSet} :
    m ∈ names.foldl insert set ↔ m ∈ names ∨ m ∈ set := by
  induction names generalizing set with
  | nil => simp
  | cons name rest ih =>
    simp only [List.foldl_cons, ih, mem_insert, List.mem_cons]
    exact ⟨fun h => by rcases h with h | h | h <;> simp [h], fun h => by rcases h with (h | h) | h <;> simp [h]⟩

@[simp] theorem mem_ofList {names : List String} {m : String} : m ∈ ofList names ↔ m ∈ names := by
  rw [ofList, mem_foldl_insert]
  exact or_iff_left (not_mem_empty m)

end NameSet

end ApiTypes
