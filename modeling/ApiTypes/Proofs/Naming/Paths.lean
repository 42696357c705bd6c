/-
# Names of paths

The name of a path is put together from the shares of its segments.  A slash between two texts cuts no segment, so the name
of the whole is the name of the two texts one behind the other; and an empty segment has no share, so that slashes at the
ends and doubled slashes do not show.

A parameter is a segment `{x}` or a segment `:x`.  Both have the same share, `By` and the raised name, as long as the name
stands on one line: the text between braces ends at a line feed, the text behind a colon does not.

* `Name.pathTypeName_append`: a slash between two texts.
* `Name.slash_not_mem_pathTypeName`: no slash is left.
* `Name.segmentName_braces`: the share of a parameter in braces.
* `Name.pathTypeName_homomorphism`: all of this for every path.
-/
import Mathlib
import ApiTypes.Proofs.Naming.Pointers

namespace ApiTypes.Name

open Text (splitOn dropFinalLineFeed)

/-! ## Segments one behind the other -/

/-- **A slash between two texts** joins their names. -/
theorem pathTypeName_append (p q : String) : pathTypeName (p ++ "/" ++ q) = pathTypeName p ++ pathTypeName q := by
  have hchars : (p ++ "/" ++ q).toList = p.toList ++ '/' :: q.toList := by simp
  rw [← String.toList_inj, String.toList_append, toList_pathTypeName, toList_pathTypeName, toList_pathTypeName, hchars,
    Text.splitOn_append, List.flatMap_append]

@[simp] theorem pathTypeName_empty : pathTypeName "" = "" := rfl

/-- A text without a slash is one segment. -/
theorem pathTypeName_of_not_mem {segment : String} (h : '/' ∉ segment.toList) :
    pathTypeName segment = String.ofList (segmentName segment.toList) := by
  rw [pathTypeName, Text.splitOn_of_not_mem h, List.flatMap_singleton]

/-- A segment between two slashes has its share between the names of the texts before and behind it. -/
theorem pathTypeName_between (p q : String) {segment : String} (h : '/' ∉ segment.toList) :
    pathTypeName (p ++ "/" ++ segment ++ "/" ++ q) =
      pathTypeName p ++ String.ofList (segmentName segment.toList) ++ pathTypeName q := by
  rw [pathTypeName_append, pathTypeName_append, pathTypeName_of_not_mem h]

/-! ## No slash is left -/

/-- The text between braces is part of the segment. -/
theorem mem_of_braced? {segment param : List Char} (h : braced? segment = some param) :
    ∀ c ∈ param, c ∈ segment := by
  have hline : ∀ c ∈ dropFinalLineFeed segment, c ∈ segment := by
    intro c hc
    unfold dropFinalLineFeed at hc
    split at hc
    · exact List.mem_of_mem_dropLast hc
    · exact hc
  intro c hc
  apply hline
  unfold braced? at h
  split at h
  · rename_i rest hrest
    split at h
    · cases h
      rw [hrest]
      exact List.mem_cons_of_mem _ (List.mem_of_mem_dropLast hc)
    · cases h
  · cases h

/-- A slash in the share of a segment would come from the segment. -/
theorem slash_not_mem_segmentName {segment : List Char} (h : '/' ∉ segment) : '/' ∉ segmentName segment := by
  have hparam : ∀ param : List Char, '/' ∉ param → '/' ∉ 'B' :: 'y' :: raiseFirst param := by
    intro param hnone hmem
    have hraised : '/' ∈ raiseFirst param := by simpa using hmem
    exact hnone ((slash_mem_raiseFirst param).mp hraised)
  unfold segmentName
  split
  · rename_i param
    exact hparam param fun hmem => h (List.mem_cons_of_mem _ hmem)
  · split
    · rename_i param hbraced
      exact hparam param fun hmem => h (mem_of_braced? hbraced _ hmem)
    · rwa [slash_mem_raiseFirst]

/-- **No slash is left** in the name of a path. -/
theorem slash_not_mem_pathTypeName (path : String) : '/' ∉ (pathTypeName path).toList := by
  rw [toList_pathTypeName, List.mem_flatMap]
  rintro ⟨segment, hsegment, hmem⟩
  exact slash_not_mem_segmentName (Text.not_mem_of_mem_splitOn hsegment) hmem

/-! ## Parameters -/

/-- A parameter in braces is read if its name stands on one line. -/
theorem braced?_braces {param : List Char} (h : '\n' ∉ param) : braced? ('{' :: (param ++ ['}'])) = some param := by
  have hline : dropFinalLineFeed ('{' :: (param ++ ['}'])) = '{' :: (param ++ ['}']) := by
    rw [← List.cons_append, dropFinalLineFeed, List.getLast?_concat, if_neg (by decide)]
  rw [braced?, hline]
  show (if _ ∧ _ then some (param ++ ['}']).dropLast else none) = _
  rw [List.getLast?_concat, List.dropLast_concat, if_pos ⟨rfl, h⟩]

theorem segmentName_braces {param : List Char} (h : '\n' ∉ param) :
    segmentName ('{' :: (param ++ ['}'])) = 'B' :: 'y' :: raiseFirst param := by
  unfold segmentName
  split
  · rename_i heq
    cases heq
  · rw [braced?_braces h]

theorem upperFirst_cons (c : Char) (rest : List Char) :
    upperFirst (String.ofList (c :: rest)) =
      String.ofList ((if c.isLower then Char.ofNat (c.toNat - 32) else c) :: rest) := by
  rw [upperFirst, String.toList_ofList, raiseFirst]
  split
  · rename_i hlower
    rw [Char.toUpper_eq_of_isLower hlower]
  · rename_i hother
    rw [Char.toUpper_eq_of_not_isLower hother]

/-- **The name of a path.**  A slash between two texts joins their names, so that slashes at the ends and doubled slashes do
not matter; the name has no slash.  A parameter may be written in braces or behind a colon: at its place in the name there
is `By` with the raised name of the parameter, in which only a small letter at the beginning is changed. -/
theorem pathTypeName_homomorphism :
    (∀ p q, pathTypeName (p ++ "/" ++ q) = pathTypeName p ++ pathTypeName q) ∧
      (∀ p q, pathTypeName ("/" ++ p) = pathTypeName p ∧ pathTypeName (p ++ "/") = pathTypeName p ∧
        pathTypeName (p ++ "//" ++ q) = pathTypeName (p ++ "/" ++ q)) ∧
      (∀ p, '/' ∉ (pathTypeName p).toList) ∧
      (∀ x : String, '/' ∉ x.toList → '\n' ∉ x.toList → ∀ p q,
        pathTypeName (p ++ "/" ++ ("\x7b" ++ x ++ "\x7d") ++ "/" ++ q) =
          pathTypeName (p ++ "/" ++ (":" ++ x) ++ "/" ++ q) ∧
        pathTypeName (p ++ "/" ++ (":" ++ x) ++ "/" ++ q) =
          pathTypeName p ++ ("By" ++ upperFirst x) ++ pathTypeName q) ∧
      upperFirst "" = "" ∧
      ∀ c rest, upperFirst (String.ofList (c :: rest)) =
        String.ofList ((if c.isLower then Char.ofNat (c.toNat - 32) else c) :: rest) := by
  refine ⟨pathTypeName_append, ?_, slash_not_mem_pathTypeName, ?_, rfl, upperFirst_cons⟩
  · intro p q
    have hleading := pathTypeName_append "" p
    have htrailing := pathTypeName_append p ""
    have hdoubled := pathTypeName_append (p ++ "/") q
    rw [pathTypeName_empty] at hleading htrailing
    have hempty : pathTypeName (p ++ "/") = pathTypeName p := by simpa using htrailing
    -- a doubled slash is a slash behind a text that ends with one
    refine ⟨by simpa using hleading, hempty, ?_⟩
    have hslashes : p ++ "//" = p ++ "/" ++ "/" := by simp [← String.toList_inj]
    rw [hslashes, hdoubled, hempty, ← pathTypeName_append]
  · intro x hslash hline p q
    -- both spellings of the parameter have the same share, and stand between the same texts
    have hshare : ∀ segment : String, segmentName segment.toList = 'B' :: 'y' :: raiseFirst x.toList →
        String.ofList (segmentName segment.toList) = "By" ++ upperFirst x := by
      intro segment h
      rw [h, ← String.toList_inj]
      simp
    have hbraces : ("\x7b" ++ x ++ "\x7d").toList = '{' :: (x.toList ++ ['}']) := by simp
    have hcolon : (":" ++ x).toList = ':' :: x.toList := by simp
    have hbracesShare := hshare ("\x7b" ++ x ++ "\x7d") (by rw [hbraces, segmentName_braces hline])
    have hcolonShare := hshare (":" ++ x) (by rw [hcolon]; rfl)
    rw [pathTypeName_between p q (by simpa [hbraces] using hslash), hbracesShare,
      pathTypeName_between p q (by simpa [hcolon] using hslash), hcolonShare]
    exact ⟨rfl, rfl⟩

/-- The name of a parameter may be empty, hold braces, or begin with a colon, also between doubled slashes. -/
theorem pathTypeName_homomorphism_nested :
    pathTypeName ("/users" ++ "/" ++ ("\x7b" ++ "\x7bid\x7d" ++ "\x7d") ++ "/" ++ "/posts/") = "UsersBy\x7bid\x7dPosts" ∧
      pathTypeName ("/users" ++ "/" ++ (":" ++ "\x7bid\x7d") ++ "/" ++ "/posts/") = "UsersBy\x7bid\x7dPosts" ∧
      pathTypeName ("" ++ "/" ++ ("\x7b" ++ "" ++ "\x7d") ++ "/" ++ "") = "By" := by
  obtain ⟨_, _, _, hparameters, _⟩ := pathTypeName_homomorphism
  obtain ⟨hsame, hnested⟩ := hparameters "\x7bid\x7d" (by decide) (by decide) "/users" "/posts/"
  obtain ⟨hbraces, hempty⟩ := hparameters "" (by decide) (by decide) "" ""
  have hname : pathTypeName "/users" ++ ("By" ++ upperFirst "\x7bid\x7d") ++ pathTypeName "/posts/" =
      "UsersBy\x7bid\x7dPosts" := by decide
  refine ⟨?_, ?_, ?_⟩
  · rw [hsame, hnested, hname]
  · rw [hnested, hname]
  · rw [hbraces, hempty]
    decide

end ApiTypes.Name
