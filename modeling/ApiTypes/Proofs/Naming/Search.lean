/-
# The search of a claim ends

A claim tries the candidate and then the candidate with the numbers 1, 2, …, until a spelling is free.  Nothing in the
search itself says that it comes to an end (`Registry.Search`).

It does, because the spellings differ from each other, whatever the candidate ends in: a registry of `n` names holds at most
`n` of them.  So the search ends after at most `n` further spellings, and at the least number that is free.

* `Registry.search_iff`: what the search has done when it ends.
* `Registry.le_size_of_forall_mem`: a registry holds no more spellings than it has names.
* `Registry.search_freeName`: the search ends at the name that is handed out.
* `Registry.claim_ends`: the laws of a claim.
-/
import ApiTypes.Proofs.Naming.Sessions

namespace ApiTypes.Registry

variable {taken : Registry} {candidate : String}

/-! ## The search -/

/-- The search for a free spelling.  It stands at a name and will come to a number next; it ends after a count of further
spellings at a result.  A name that is free is the result; after a name that is in use, the candidate is tried with the next
number. -/
inductive Search (taken : Registry) (candidate : String) : (name : String) → (next count : Nat) → (result : String) → Prop
  | free {name : String} {next : Nat} (hfree : name ∉ taken) : Search taken candidate name next 0 name
  | retry {name result : String} {next count : Nat} (htaken : name ∈ taken)
      (hrest : Search taken candidate (numbered candidate next) (next + 1) count result) :
      Search taken candidate name next (count + 1) result

theorem spelled_zero (candidate : String) : spelled candidate 0 = candidate := if_pos rfl

theorem spelled_succ (candidate : String) (k : Nat) : spelled candidate (k + 1) = numbered candidate (k + 1) :=
  if_neg (Nat.succ_ne_zero k)

/-- **What the search has done when it ends.**  It stops at a spelling that is free, and all those before it are in use. -/
theorem search_iff {k count : Nat} {result : String} :
    Search taken candidate (spelled candidate k) (k + 1) count result ↔
      result = spelled candidate (k + count) ∧ result ∉ taken ∧
        ∀ j, k ≤ j → j < k + count → spelled candidate j ∈ taken := by
  induction count generalizing k with
  | zero =>
      constructor
      · intro h
        cases h with
        | free hfree => exact ⟨rfl, hfree, fun j hk hj => absurd hk (Nat.not_le_of_lt hj)⟩
      · rintro ⟨rfl, hfree, _⟩
        exact .free hfree
  | succ count ih =>
      -- the spelling at which the search stands is in use, and the rest of the search begins at the next one
      have hsum : k + 1 + count = k + (count + 1) := by omega
      have hrest := @ih (k + 1)
      rw [spelled_succ, hsum] at hrest
      constructor
      · intro h
        cases h with
        | retry htaken hsearch =>
            obtain ⟨hresult, hfree, hbetween⟩ := hrest.mp hsearch
            refine ⟨hresult, hfree, fun j hk hj => ?_⟩
            rcases Nat.eq_or_lt_of_le hk with rfl | hlt
            · exact htaken
            · exact hbetween j hlt hj
      · rintro ⟨hresult, hfree, hbetween⟩
        refine .retry (hbetween k (Nat.le_refl k) (by omega)) (hrest.mpr ⟨hresult, hfree, fun j hk hj => ?_⟩)
        exact hbetween j (by omega) hj

/-- From the candidate on, the search passes over the spellings with smaller numbers. -/
theorem search_candidate_iff {count : Nat} {result : String} :
    Search taken candidate candidate 1 count result ↔
      result = spelled candidate count ∧ result ∉ taken ∧ ∀ j < count, spelled candidate j ∈ taken := by
  have h := @search_iff taken candidate 0 count result
  simpa only [spelled_zero, Nat.zero_add, Nat.zero_le, forall_const] using h

/-- The search ends in one way only. -/
theorem Search.unique {count other : Nat} {result name : String} (h : Search taken candidate candidate 1 count result)
    (h' : Search taken candidate candidate 1 other name) : count = other ∧ result = name := by
  obtain ⟨rfl, hfree, hused⟩ := search_candidate_iff.mp h
  obtain ⟨rfl, hfree', hused'⟩ := search_candidate_iff.mp h'
  have hcount : count = other := by
    rcases Nat.lt_trichotomy count other with hlt | heq | hgt
    · exact absurd (hused' count hlt) hfree
    · exact heq
    · exact absurd (hused other hgt) hfree'
  exact ⟨hcount, congrArg (spelled candidate) hcount⟩

/-! ## The number of spellings in use -/

/-- **Counting.**  A registry holds no more spellings of a candidate in a row than it has names. -/
theorem le_size_of_forall_mem {count : Nat} (h : ∀ j < count, spelled candidate j ∈ taken) : count ≤ taken.size := by
  by_contra hmore
  have hcandidate : candidate ∈ taken := spelled_zero candidate ▸ h 0 (by omega)
  obtain ⟨k, hone, hsize, hfree⟩ := exists_numbered_not_mem hcandidate
  obtain ⟨j, rfl⟩ := Nat.exists_eq_succ_of_ne_zero (by omega : k ≠ 0)
  rw [Nat.succ_eq_add_one, ← spelled_succ] at hfree
  exact hfree (h (j + 1) (by omega))

/-! ## Claims -/

/-- The search ends at the name that is handed out. -/
theorem search_freeName (taken : Registry) (candidate : String) :
    ∃ count ≤ taken.size, Search taken candidate candidate 1 count (taken.freeName candidate) := by
  obtain ⟨count, hname, hused⟩ := freeName_eq_spelled taken candidate
  have hsearch := search_candidate_iff.mpr ⟨hname, freeName_not_mem taken candidate, hused⟩
  exact ⟨count, le_size_of_forall_mem hused, hsearch⟩

/-- **A claim ends.**  In a registry of any number of names and for every candidate:

* The search ends, after at most as many further spellings as there are names, and it ends at the name that is handed out
  and in no other way.
* This name was not in use.  It is the candidate if that was free, and otherwise the candidate with the least number from
  one on that is free; this is the number of further spellings.
* The registry then has this name and all names that it had before, and so one more. -/
theorem claim_ends (taken : Registry) (candidate : String) :
    let (name, after) := taken.claim candidate
    ∃ count ≤ taken.size,
      (∀ other result, Search taken candidate candidate 1 other result ↔ other = count ∧ result = name) ∧
        name ∉ taken ∧
        (candidate ∉ taken ∧ count = 0 ∧ name = candidate ∨
          candidate ∈ taken ∧ 1 ≤ count ∧ name = numbered candidate count ∧
            ∀ j, 1 ≤ j → j < count → numbered candidate j ∈ taken) ∧
        (∀ m, m ∈ after ↔ m = name ∨ m ∈ taken) ∧ after.size = taken.size + 1 := by
  obtain ⟨count, hle, hsearch⟩ := search_freeName taken candidate
  refine ⟨count, hle, fun other result => ?_, freeName_not_mem taken candidate, ?_, fun m => NameSet.mem_insert,
    size_reserve_freeName taken candidate⟩
  · constructor
    · intro h
      exact h.unique hsearch
    · rintro ⟨rfl, rfl⟩
      exact hsearch
  · obtain ⟨hname, hfree, hused⟩ := search_candidate_iff.mp hsearch
    cases count with
    | zero =>
        rw [spelled_zero] at hname
        exact .inl ⟨hname ▸ hfree, rfl, hname⟩
    | succ count =>
        rw [spelled_succ] at hname
        refine .inr ⟨spelled_zero candidate ▸ hused 0 (Nat.succ_pos count), Nat.succ_pos count, hname, fun j hone hj => ?_⟩
        obtain ⟨i, rfl⟩ := Nat.exists_eq_succ_of_ne_zero (by omega : j ≠ 0)
        rw [Nat.succ_eq_add_one, ← spelled_succ]
        exact hused (i + 1) hj

example : claim (NameSet.ofList ["User1", "User", "User11"]) "User1" =
    ("User12", NameSet.ofList ["User", "User1", "User11", "User12"]) := by decide +kernel

end ApiTypes.Registry
