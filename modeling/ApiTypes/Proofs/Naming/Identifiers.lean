/-
# Names that are identifiers

A cleaned name and the name of a path copy characters: apart from dots and slashes, the marks of parameters and the first
letter nothing is changed.  Whether the outcome is an identifier is therefore settled by the characters that are copied.

* `Name.isIdentifier_cleanName_iff`: the name of a schema, from the characters of its key.
* `Name.forall_isPart_pathTypeName_iff`: the name of a path, from the characters of its segments.
* `Registry.forall_isPart_numbered_iff`: a number changes nothing.
-/
import Mathlib
import ApiTypes.Name.Registry
import ApiTypes.Proofs.TypeSyntax.Identifier
import ApiTypes.Proofs.TypeSyntax.Unambiguous

namespace ApiTypes

open TypeSyntax (IdentifierChars IsIdentifier isIdentifier_iff)

variable (chars : IdentifierChars)

namespace Name

open Text (splitOn)

/-! ## The first letter -/

theorem forall_isPart_raiseFirst_iff (s : List Char) :
    (∀ c ∈ raiseFirst s, chars.isPart c = true) ↔ ∀ c ∈ s, chars.isPart c = true := by
  cases s with
  | nil => rfl
  | cons first rest => simp only [raiseFirst, List.forall_mem_cons, chars.isPart_toUpper]

theorem exists_isStart_head?_raiseFirst_iff (s : List Char) :
    (∃ c ∈ (raiseFirst s).head?, chars.isStart c = true) ↔ ∃ c ∈ s.head?, chars.isStart c = true := by
  cases s with
  | nil => rfl
  | cons first rest => simp [raiseFirst]

/-! ## Names of schemas -/

/-- A dot becomes an underscore, and other characters are not changed. -/
theorem apply_dotToUnderscore_iff {p : Char → Bool} (h : p '_' = true) (c : Char) :
    p (dotToUnderscore c) = true ↔ c = '.' ∨ p c = true := by
  unfold dotToUnderscore
  split
  · rename_i hdot
    exact iff_of_true h (.inl hdot)
  · rename_i hother
    exact (or_iff_right hother).symm

/-- A key that makes an identifier: behind its namespace it consists of dots and characters of identifiers, and begins with
a dot or a character that identifiers begin with. -/
structure IsPlainKey (key : String) : Prop where
  start : ∃ c ∈ (dropOneOf namespaces key.toList).head?, c = '.' ∨ chars.isStart c = true
  parts : ∀ c ∈ dropOneOf namespaces key.toList, c = '.' ∨ chars.isPart c = true

/-- **The name of a schema** is an identifier exactly when its key makes one. -/
theorem isIdentifier_cleanName_iff (key : String) : IsIdentifier chars (cleanName key) ↔ IsPlainKey chars key := by
  have hunderscore : chars.isStart '_' = true := chars.isStart_ascii (by decide)
  -- raising the first letter changes neither what may begin an identifier nor what may stand in one
  have hstart : (∃ c ∈ (clean key.toList).head?, chars.isStart c = true) ↔
      ∃ c ∈ (dropOneOf namespaces key.toList).head?, c = '.' ∨ chars.isStart c = true := by
    rw [clean, exists_isStart_head?_raiseFirst_iff, List.head?_map]
    simp only [Option.mem_map, exists_exists_and_eq_and, apply_dotToUnderscore_iff hunderscore]
  have hparts : (∀ c ∈ clean key.toList, chars.isPart c = true) ↔
      ∀ c ∈ dropOneOf namespaces key.toList, c = '.' ∨ chars.isPart c = true := by
    rw [clean, forall_isPart_raiseFirst_iff]
    simp only [List.forall_mem_map, apply_dotToUnderscore_iff (chars.isPart_of_isStart hunderscore)]
  rw [isIdentifier_iff (isLower_head?_cleanName key)]
  constructor
  · intro h
    exact ⟨hstart.mp (toList_cleanName key ▸ h.start), hparts.mp (toList_cleanName key ▸ h.parts)⟩
  · intro h
    exact ⟨toList_cleanName key ▸ hstart.mpr h.start, toList_cleanName key ▸ hparts.mpr h.parts⟩

/-! ## Names of paths -/

/-- The characters of a segment that its share copies: the name of a parameter, or all of them. -/
def copied (segment : List Char) : List Char :=
  if segment.head? = some ':' then segment.tail else (braced? segment).getD segment

/-- The share of a segment is what it copies, behind `By` if the segment is a parameter. -/
theorem segmentName_eq_or (segment : List Char) :
    segmentName segment = raiseFirst (copied segment) ∨
      segmentName segment = 'B' :: 'y' :: raiseFirst (copied segment) := by
  unfold segmentName
  split
  · exact .inr rfl
  · rename_i hcolon
    -- the colon is looked for before the braces, as in the share itself
    have hhead : segment.head? ≠ some ':' := by
      intro hhead
      obtain ⟨param, rfl⟩ := List.head?_eq_some_iff.mp hhead
      exact hcolon param rfl
    rw [copied, if_neg hhead]
    split
    · rename_i hbraced
      rw [hbraced]
      exact .inr rfl
    · rename_i hbraced
      rw [hbraced]
      exact .inl rfl

theorem forall_isPart_segmentName_iff (segment : List Char) :
    (∀ c ∈ segmentName segment, chars.isPart c = true) ↔ ∀ c ∈ copied segment, chars.isPart c = true := by
  have hB : chars.isPart 'B' = true := chars.isPart_of_isWordChar (by decide)
  have hy : chars.isPart 'y' = true := chars.isPart_of_isWordChar (by decide)
  rcases segmentName_eq_or segment with h | h
  · rw [h, forall_isPart_raiseFirst_iff]
  · rw [h, List.forall_mem_cons, List.forall_mem_cons, forall_isPart_raiseFirst_iff, and_iff_right hB, and_iff_right hy]

/-- A path whose segments copy characters of identifiers only. -/
def IsPlainPath (path : String) : Prop :=
  ∀ segment ∈ splitOn '/' path.toList, ∀ c ∈ copied segment, chars.isPart c = true

/-- **The name of a path** consists of characters of identifiers exactly when the path is plain. -/
theorem forall_isPart_pathTypeName_iff (path : String) :
    (∀ c ∈ (pathTypeName path).toList, chars.isPart c = true) ↔ IsPlainPath chars path := by
  simp only [toList_pathTypeName, List.forall_mem_flatMap, forall_isPart_segmentName_iff, IsPlainPath]

end Name

/-! ## Numbers behind names -/

/-- A number changes nothing. -/
theorem Registry.forall_isPart_numbered_iff (candidate : String) (k : Nat) :
    (∀ c ∈ (numbered candidate k).toList, chars.isPart c = true) ↔
      ∀ c ∈ candidate.toList, chars.isPart c = true := by
  have hdigits : ∀ c ∈ k.repr.toList, chars.isPart c = true := by
    intro c hc
    rw [Nat.toList_repr] at hc
    have hdigit : c.isDigit = true := Nat.isDigit_of_mem_toDigits (by decide) (by decide) hc
    exact chars.isPart_of_isWordChar (by simp [TypeSyntax.isWordChar, Char.isAlphanum, hdigit])
  rw [numbered, String.toList_append, List.forall_mem_append, and_iff_left hdigits]

end ApiTypes
