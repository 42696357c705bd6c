/-
# Names that are handed out

A claim hands out the candidate if it is free, and otherwise the candidate with the least number from one on that is free
(`GivenFor`).

The search for that number cannot fail: the candidate and its first `n` numbered spellings are `n + 1` different names, so
that a registry of `n` names cannot hold them all (`exists_numbered_not_mem`).

* `Registry.freeName_givenFor`: what a claim hands out.
* `Registry.freeName_not_mem`: it was not in use.
* `Registry.HandsOut`: what holds of the names that are handed out between two states of the registry, put together from
  single claims.
-/
import ApiTypes.Name.Registry
import Mathlib.Data.List.Nodup
import Mathlib.Data.List.Perm.Subperm

namespace ApiTypes

namespace Registry

/-! ## Numbered names -/

/-- Different numbers are spelled differently. -/
theorem repr_injective : Function.Injective Nat.repr := by
  intro m n h
  have hdigits : Nat.toDigits 10 m = Nat.toDigits 10 n := by
    rw [← Nat.toList_repr, ← Nat.toList_repr, h]
  have hvalue := congrArg (fun digits => Nat.ofDigitChars 10 digits 0) hdigits
  simpa using hvalue

theorem numbered_injective (candidate : String) : Function.Injective (numbered candidate) := by
  intro m n h
  exact repr_injective ((String.append_right_inj candidate).mp h)

/-- A number is never spelled by the empty text. -/
theorem numbered_ne_self (candidate : String) (k : Nat) : numbered candidate k ≠ candidate := by
  intro h
  have hlist : candidate.toList ++ k.repr.toList = candidate.toList := by
    rw [← String.toList_append]
    exact congrArg String.toList h
  have hnil : Nat.toDigits 10 k = [] := by
    rw [← Nat.toList_repr]
    exact List.append_right_eq_self.mp hlist
  exact Nat.toDigits_ne_nil hnil

/-- The candidate and its first numbered spellings. -/
def spellings (candidate : String) (count : Nat) : List String :=
  candidate :: (List.range count).map fun i => numbered candidate (i + 1)

theorem length_spellings (candidate : String) (count : Nat) :
    (spellings candidate count).length = count + 1 := by
  simp [spellings]

theorem nodup_spellings (candidate : String) (count : Nat) : (spellings candidate count).Nodup := by
  rw [spellings, List.nodup_cons]
  constructor
  · intro h
    obtain ⟨i, _, hi⟩ := List.mem_map.mp h
    exact numbered_ne_self candidate (i + 1) hi
  · refine List.Nodup.map ?_ List.nodup_range
    intro i j h
    have hnumber : i + 1 = j + 1 := numbered_injective candidate h
    omega

/-- **A free number exists.**  A registry that holds the candidate misses one of as many numbered spellings as it has
names. -/
theorem exists_numbered_not_mem {taken : Registry} {candidate : String} (h : candidate ∈ taken) :
    ∃ k, 1 ≤ k ∧ k ≤ taken.size ∧ numbered candidate k ∉ taken := by
  by_contra hall
  push Not at hall
  -- the registry would hold one name more than it has
  have hsubset : spellings candidate taken.size ⊆ taken.names := by
    intro name hname
    rcases List.mem_cons.mp hname with rfl | hname
    · exact h
    · obtain ⟨i, hi, rfl⟩ := List.mem_map.mp hname
      rw [List.mem_range] at hi
      exact hall (i + 1) (by omega) (by omega)
  have hle := ((nodup_spellings candidate taken.size).subperm hsubset).length_le
  rw [length_spellings, NameSet.size] at hle
  omega

/-! ## The search for a number -/

section Search

variable (taken : Registry) (candidate : String)

theorem le_freeNumber (tries k : Nat) : k ≤ freeNumber taken candidate tries k := by
  induction tries generalizing k with
  | zero => exact Nat.le_refl k
  | succ tries ih =>
      rw [freeNumber]
      split
      · exact Nat.le_of_succ_le (ih (k + 1))
      · exact Nat.le_refl k

/-- The numbers that the search passes over are taken. -/
theorem numbered_mem_of_lt_freeNumber (tries k : Nat) {j : Nat} (hk : k ≤ j)
    (hj : j < freeNumber taken candidate tries k) : numbered candidate j ∈ taken := by
  induction tries generalizing k with
  | zero =>
      rw [freeNumber] at hj
      omega
  | succ tries ih =>
      rw [freeNumber] at hj
      split at hj
      · rename_i htaken
        rcases Nat.eq_or_lt_of_le hk with rfl | hlt
        · exact htaken
        · exact ih (k + 1) hlt hj
      · omega

/-- The search stops at a free number if there is one among those that it tries. -/
theorem freeNumber_not_mem_of_exists (tries k : Nat)
    (h : ∃ j, k ≤ j ∧ j < k + tries ∧ numbered candidate j ∉ taken) :
    numbered candidate (freeNumber taken candidate tries k) ∉ taken := by
  induction tries generalizing k with
  | zero =>
      obtain ⟨j, hkj, hj, _⟩ := h
      omega
  | succ tries ih =>
      rw [freeNumber]
      split
      · rename_i htaken
        apply ih
        obtain ⟨j, hkj, hj, hfree⟩ := h
        rcases Nat.eq_or_lt_of_le hkj with rfl | hlt
        · exact absurd htaken hfree
        · exact ⟨j, hlt, by omega, hfree⟩
      · assumption

end Search

/-! ## What a claim hands out -/

/-- The name that is given for a candidate when some names are in use: the candidate if it is free, else the candidate
with the least number from one on that makes it free. -/
def GivenFor (used : List String) (candidate name : String) : Prop :=
  (candidate ∉ used ∧ name = candidate) ∨
    (candidate ∈ used ∧ ∃ k, 1 ≤ k ∧ name = numbered candidate k ∧ numbered candidate k ∉ used ∧
      ∀ j, 1 ≤ j → j < k → numbered candidate j ∈ used)

/-- Only which names are in use counts. -/
theorem GivenFor.congr {used other : List String} {candidate name : String} (h : GivenFor used candidate name)
    (hmem : ∀ m, m ∈ used ↔ m ∈ other) : GivenFor other candidate name := by
  simpa only [GivenFor, hmem] using h

theorem GivenFor.not_mem {used : List String} {candidate name : String} (h : GivenFor used candidate name) :
    name ∉ used := by
  rcases h with ⟨hfree, rfl⟩ | ⟨_, k, _, rfl, hfree, _⟩
  · exact hfree
  · exact hfree

/-- The number that a taken candidate gets is free. -/
theorem numbered_freeNumber_not_mem {taken : Registry} {candidate : String} (h : candidate ∈ taken) :
    numbered candidate (freeNumber taken candidate taken.size 1) ∉ taken := by
  apply freeNumber_not_mem_of_exists
  obtain ⟨k, hone, hsize, hfree⟩ := exists_numbered_not_mem h
  exact ⟨k, hone, by omega, hfree⟩

/-- **What a claim hands out.** -/
theorem freeName_givenFor (taken : Registry) (candidate : String) :
    GivenFor taken.names candidate (taken.freeName candidate) := by
  by_cases h : candidate ∈ taken
  · right
    rw [freeName, if_pos h]
    exact ⟨h, freeNumber taken candidate taken.size 1, le_freeNumber taken candidate taken.size 1, rfl,
      numbered_freeNumber_not_mem h,
      fun j hone hj => numbered_mem_of_lt_freeNumber taken candidate taken.size 1 hone hj⟩
  · left
    exact ⟨h, freeName_of_not_mem h⟩

/-- A name that is handed out was not in use. -/
theorem freeName_not_mem (taken : Registry) (candidate : String) : taken.freeName candidate ∉ taken :=
  (freeName_givenFor taken candidate).not_mem

/-! ## Runs of claims -/

/-- Names were handed out between two states of the registry: they differ from each other and from the names in use
before, and together with those they are the names in use after. -/
structure HandsOut (before : Registry) (names : List String) (after : Registry) : Prop where
  nodup : names.Nodup
  fresh : ∀ name ∈ names, name ∉ before
  mem_after : ∀ name, name ∈ after ↔ name ∈ before ∨ name ∈ names

namespace HandsOut

/-- Nothing was handed out. -/
theorem refl (taken : Registry) : HandsOut taken [] taken :=
  ⟨List.nodup_nil, by simp, by simp⟩

/-- A claim hands out one name. -/
theorem claim (taken : Registry) (candidate : String) :
    HandsOut taken [taken.freeName candidate] (taken.claim candidate).2 := by
  refine ⟨List.nodup_singleton _, ?_, fun name => ?_⟩
  · intro name hname
    rw [List.mem_singleton.mp hname]
    exact freeName_not_mem taken candidate
  · rw [snd_claim, reserve, NameSet.mem_insert, List.mem_singleton]
    exact or_comm

/-- What is handed out later differs from what was handed out before. -/
theorem trans {before between after : Registry} {first second : List String} (h : HandsOut before first between)
    (h' : HandsOut between second after) : HandsOut before (first ++ second) after := by
  refine ⟨List.nodup_append.mpr ⟨h.nodup, h'.nodup, ?_⟩, ?_, fun name => ?_⟩
  · rintro name hfirst _ hsecond rfl
    exact h'.fresh name hsecond ((h.mem_after name).mpr (.inr hfirst))
  · intro name hname hbefore
    rcases List.mem_append.mp hname with hfirst | hsecond
    · exact h.fresh name hfirst hbefore
    · exact h'.fresh name hsecond ((h.mem_after name).mpr (.inl hbefore))
  · rw [h'.mem_after, h.mem_after, List.mem_append, or_assoc]

end HandsOut

end Registry

end ApiTypes
