/-
# Splitting text at a separator

`splitOn sep s` cuts a list of characters at every occurrence of `sep`.  Names of endpoints, pointers to
schemas, file paths and version numbers are all read by such a cut.

The two facts kept beside the definition say that no piece holds the separator (`not_mem_of_mem_splitOn`) and
that cutting commutes with writing a separator between two texts (`splitOn_append`).
-/
namespace ApiTypes.Text

/-- The pieces of `s` between the occurrences of `sep`; there is one piece more than separators. -/
def splitOn (sep : Char) : List Char → List (List Char)
  | [] => [[]]
  | c :: rest =>
    if c = sep then [] :: splitOn sep rest
    else
      match splitOn sep rest with
      | [] => [[c]]
      | piece :: pieces => (c :: piece) :: pieces

@[simp] theorem splitOn_nil (sep : Char) : splitOn sep [] = [[]] := rfl

@[simp] theorem splitOn_cons_self (sep : Char) (rest : List Char) :
    splitOn sep (sep :: rest) = [] :: splitOn sep rest := by
  simp [splitOn]

/-- There is always at least one piece. -/
theorem splitOn_ne_nil (sep : Char) (s : List Char) : splitOn sep s ≠ [] := by
  cases s with
  | nil => simp
  | cons c rest =>
    unfold splitOn
    split
    · simp
    · split <;> simp

/-- A character other than the separator is put in front of the first piece. -/
theorem splitOn_cons_of_ne {sep c : Char} (h : c ≠ sep) (rest : List Char) :
    ∃ piece pieces, splitOn sep rest = piece :: pieces ∧
      splitOn sep (c :: rest) = (c :: piece) :: pieces := by
  cases hs : splitOn sep rest with
  | nil => exact absurd hs (splitOn_ne_nil sep rest)
  | cons piece pieces => exact ⟨piece, pieces, rfl, by simp [splitOn, h, hs]⟩

/-- No piece holds the separator. -/
theorem not_mem_of_mem_splitOn {sep : Char} {s piece : List Char} (h : piece ∈ splitOn sep s) :
    sep ∉ piece := by
  induction s generalizing piece with
  | nil => simp_all
  | cons c rest ih =>
    by_cases hc : c = sep
    · subst hc
      rcases List.mem_cons.1 (by simpa using h) with rfl | hp
      · simp
      · exact ih hp
    · obtain ⟨first, others, hr, hcons⟩ := splitOn_cons_of_ne hc rest
      rw [hcons] at h
      rcases List.mem_cons.1 h with rfl | hp
      · have hfirst : sep ∉ first := ih (by simp [hr])
        simp [Ne.symm hc, hfirst]
      · exact ih (by simp [hr, hp])

/-- Text without the separator is one piece. -/
theorem splitOn_of_not_mem {sep : Char} {s : List Char} (h : sep ∉ s) : splitOn sep s = [s] := by
  induction s with
  | nil => rfl
  | cons c rest ih =>
    have hc : c ≠ sep := fun e => h (by simp [e])
    have hrest := ih fun hm => h (List.mem_cons_of_mem _ hm)
    simp [splitOn, hc, hrest]

/-- **Cutting commutes with joining.**  A separator written between two texts separates their pieces. -/
theorem splitOn_append (sep : Char) (s t : List Char) :
    splitOn sep (s ++ sep :: t) = splitOn sep s ++ splitOn sep t := by
  induction s with
  | nil => simp
  | cons c rest ih =>
    by_cases hc : c = sep
    · subst hc
      simp [ih]
    · obtain ⟨first, others, hr, hcons⟩ := splitOn_cons_of_ne hc rest
      have hstep : splitOn sep (rest ++ sep :: t) = first :: (others ++ splitOn sep t) := by
        rw [ih, hr]; rfl
      rw [hcons, List.cons_append, splitOn, if_neg hc, hstep]
      rfl

end ApiTypes.Text
