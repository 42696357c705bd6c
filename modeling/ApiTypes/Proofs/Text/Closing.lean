/-
# Where comments end

A comment begins with `/*` and ends with the first `*/` behind it, whatever the writer of the comment had in mind.  A text
inside a comment is safe when it does not hold the two characters `*/`, and when no such pair arises where it meets the
text around it.

* `Comment.closings_append`: closing pairs are counted piece by piece, except where a star meets a slash.
* `Comment.closings_intercalate`: separators that neither begin with a slash nor end with a star add no pair.
* `Comment.closesAtEnd_iff`: a comment closes at its end and nowhere before exactly when its inner text holds no pair.
* `Comment.behind?_iff`: this is also when the comment is read to its end.
-/
import Mathlib.Algebra.GroupWithZero.Nat
import Mathlib.Data.List.Basic

namespace ApiTypes.Comment

/-! ## Closing pairs -/

/-- How many pairs of a star and a slash behind it stand in a text. -/
def countClosings : List Char → Nat
  | [] => 0
  | c :: rest => (if c = '*' ∧ rest.head? = some '/' then 1 else 0) + countClosings rest

theorem countClosings_of_not_mem {s : List Char} (h : '*' ∉ s) : countClosings s = 0 := by
  induction s with
  | nil => rfl
  | cons c rest ih =>
      rw [List.mem_cons, not_or] at h
      rw [countClosings, if_neg fun hpair => h.1 hpair.1.symm, ih h.2]

/-- How often a text holds the two characters that end a comment. -/
def closings (text : String) : Nat :=
  countClosings text.toList

theorem countClosings_append {s t : List Char} (h : ¬ (s.getLast? = some '*' ∧ t.head? = some '/')) :
    countClosings (s ++ t) = countClosings s + countClosings t := by
  induction s with
  | nil => simp [countClosings]
  | cons c rest ih =>
      cases rest with
      | nil =>
          -- the only place where a pair could arise is between the two texts
          have hseam : ¬ (c = '*' ∧ t.head? = some '/') := by simpa using h
          simp [countClosings, hseam]
      | cons d rest =>
          have hrest := ih (by simpa using h)
          show (if c = '*' ∧ some d = some '/' then 1 else 0) + countClosings (d :: rest ++ t) = _
          rw [hrest, ← Nat.add_assoc]
          rfl

/-- **Closing pairs** are counted piece by piece, except where a star meets a slash. -/
theorem closings_append {s t : String} (h : s.toList.getLast? ≠ some '*' ∨ t.toList.head? ≠ some '/') :
    closings (s ++ t) = closings s + closings t := by
  rw [closings, String.toList_append]
  apply countClosings_append
  rintro ⟨hlast, hhead⟩
  rcases h with h | h
  · exact h hlast
  · exact h hhead

/-- A text that can stand between two others: it holds no closing pair and makes none with its neighbours. -/
structure Separates (s : String) : Prop where
  ne : s.toList ≠ []
  free : closings s = 0
  head : s.toList.head? ≠ some '/'
  last : s.toList.getLast? ≠ some '*'

instance (s : String) : Decidable (Separates s) :=
  decidable_of_iff (s.toList ≠ [] ∧ closings s = 0 ∧ s.toList.head? ≠ some '/' ∧ s.toList.getLast? ≠ some '*')
    ⟨fun ⟨ne, free, head, last⟩ => ⟨ne, free, head, last⟩, fun ⟨ne, free, head, last⟩ => ⟨ne, free, head, last⟩⟩

namespace Separates

variable {s : String}

theorem closings_behind (h : Separates s) (t : String) : closings (t ++ s) = closings t := by
  rw [closings_append (.inr h.head), h.free, Nat.add_zero]

theorem closings_before (h : Separates s) (t : String) : closings (s ++ t) = closings t := by
  rw [closings_append (.inl h.last), h.free, Nat.zero_add]

/-- Two texts with a separator between them hold the closing pairs of the two. -/
theorem closings_between (h : Separates s) (t u : String) : closings (t ++ s ++ u) = closings t + closings u := by
  have hhead : (s ++ u).toList.head? ≠ some '/' := by
    rw [String.toList_append, List.head?_append_of_ne_nil _ h.ne]
    exact h.head
  rw [String.append_assoc, closings_append (.inr hhead), h.closings_before]

/-- **Lists of texts.**  Texts with separators between them hold the closing pairs of the texts. -/
theorem closings_intercalate (h : Separates s) (texts : List String) :
    closings (s.intercalate texts) = (texts.map closings).sum := by
  induction texts with
  | nil => rfl
  | cons text rest ih =>
      cases rest with
      | nil => simp
      | cons next rest =>
          rw [String.intercalate_cons_cons, h.closings_between, ih]
          simp only [List.map_cons, List.sum_cons]

end Separates

/-! ## Closing at the end -/

/-- A comment holds the two characters that end it exactly once, at its end. -/
structure ClosesAtEnd (comment : String) : Prop where
  once : closings comment = 1
  atEnd : ∃ before, comment = before ++ "*/"

/-- The comment around an inner text. -/
def around (inner : String) : String :=
  "/**" ++ inner ++ "*/"

/-- A text that does not begin with a slash adds one closing pair when it is made a comment. -/
theorem closings_around {inner : String} (h : inner.toList.head? ≠ some '/') :
    closings (around inner) = closings inner + 1 := by
  have hend : ("*/" : String).toList.head? ≠ some '/' := by decide
  rw [around, closings_append (.inr hend), closings_append (.inr h)]
  have hopening : closings "/**" = 0 := by decide
  have hclosing : closings "*/" = 1 := by decide
  omega

/-- **Closing at the end.** -/
theorem closesAtEnd_iff {inner : String} (h : inner.toList.head? ≠ some '/') :
    ClosesAtEnd (around inner) ↔ closings inner = 0 := by
  have haround := closings_around h
  constructor
  · intro hcloses
    have honce := hcloses.once
    omega
  · intro hnone
    exact ⟨by omega, "/**" ++ inner, rfl⟩

/-! ## Reading a comment -/

/-- What stands behind the first closing pair. -/
def afterClosing : List Char → Option (List Char)
  | '*' :: '/' :: rest => some rest
  | _ :: rest => afterClosing rest
  | [] => none

/-- What stands behind the comment that a text begins with. -/
def behind? : List Char → Option (List Char)
  | '/' :: '*' :: rest => afterClosing rest
  | _ => none

/-- A character that does not begin a closing pair is passed over. -/
theorem afterClosing_cons {c : Char} {rest : List Char} (h : ¬ (c = '*' ∧ rest.head? = some '/')) :
    afterClosing (c :: rest) = afterClosing rest := by
  rw [afterClosing.eq_def]
  split
  · rename_i heq
    cases heq
    exact absurd ⟨rfl, rfl⟩ h
  · rename_i heq
    cases heq
    rfl
  · rename_i heq
    cases heq

/-- A text without closing pairs is passed over up to the pair behind it. -/
theorem afterClosing_of_countClosings_eq_zero {s : List Char} (h : countClosings s = 0) (rest : List Char) :
    afterClosing (s ++ '*' :: '/' :: rest) = some rest := by
  induction s with
  | nil => rfl
  | cons c s ih =>
      have hpair : ¬ (c = '*' ∧ s.head? = some '/') := by
        intro hpair
        simp [countClosings, hpair] at h
      have hrest : countClosings s = 0 := by
        rw [countClosings] at h
        omega
      have hhead : ¬ (c = '*' ∧ (s ++ '*' :: '/' :: rest).head? = some '/') := by
        cases s with
        | nil => simp
        | cons d s => simpa using hpair
      rw [List.cons_append, afterClosing_cons hhead]
      exact ih hrest

/-- A closing pair inside a text ends the comment there. -/
theorem exists_afterClosing_of_countClosings_ne_zero {s : List Char} (h : countClosings s ≠ 0) :
    ∃ left, ∀ rest, afterClosing (s ++ rest) = some (left ++ rest) := by
  induction s with
  | nil => exact absurd rfl h
  | cons c s ih =>
      by_cases hpair : c = '*' ∧ s.head? = some '/'
      · obtain ⟨rfl, hhead⟩ := hpair
        obtain ⟨left, rfl⟩ := List.head?_eq_some_iff.mp hhead
        exact ⟨left, fun rest => rfl⟩
      · have hs : countClosings s ≠ 0 := by
          rw [countClosings, if_neg hpair] at h
          omega
        obtain ⟨left, hleft⟩ := ih hs
        refine ⟨left, fun rest => ?_⟩
        have hhead : ¬ (c = '*' ∧ (s ++ rest).head? = some '/') := by
          cases s with
          | nil => exact absurd rfl hs
          | cons d s => simpa using hpair
        rw [List.cons_append, afterClosing_cons hhead]
        exact hleft rest

/-- **Reading a comment.**  A comment is read to its end, whatever stands behind it, exactly when its inner text holds no
closing pair. -/
theorem behind?_iff {inner : String} (h : inner.toList.head? ≠ some '/') :
    (∀ rest, behind? ((around inner).toList ++ rest) = some rest) ↔ closings inner = 0 := by
  have hchars : ∀ rest, behind? ((around inner).toList ++ rest) =
      afterClosing (('*' :: inner.toList) ++ '*' :: '/' :: rest) := by
    intro rest
    simp only [around, String.toList_append, List.append_assoc]
    rfl
  have hcount : countClosings ('*' :: inner.toList) = closings inner := by
    have hstar : ¬ ('*' = '*' ∧ inner.toList.head? = some '/') := fun hpair => h hpair.2
    rw [countClosings, if_neg hstar, Nat.zero_add, closings]
  simp only [hchars, ← hcount]
  constructor
  · intro hread
    by_contra hne
    obtain ⟨left, hleft⟩ := exists_afterClosing_of_countClosings_ne_zero hne
    -- the rest that is read is longer than what stands behind the comment
    have hlong := (hread []).symm.trans (hleft _)
    simp at hlong
  · intro hzero rest
    exact afterClosing_of_countClosings_eq_zero hzero rest

end ApiTypes.Comment
