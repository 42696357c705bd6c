/-
# Cleaning as a normal form

Cleaning brings every name into a normal form, and the normal form says itself which names have it: they hold no dot and do
not begin with a small letter (`Name.IsClean`).  A clean name begins with no namespace, since every namespace ends in a dot;
so cleaning finds nothing to do in it.

A namespace in front is dropped once.  What is behind it is cleaned without a look at the namespaces, so that all namespaces
give the same name, but a second one stays.

* `Name.cleanName_eq_self_iff`: the clean names are those that cleaning leaves alone.
* `Name.clean_behind`: a name behind a namespace.
* `Name.clean_behind_eq_clean_iff`: when a namespace in front changes nothing.
* `Name.cleanName_normalizes`: the laws together.
-/
import ApiTypes.Proofs.TypeSyntax.Identifier
import ApiTypes.Proofs.TypeSyntax.Unambiguous

namespace ApiTypes.Name

/-! ## Clean names -/

/-- A name in normal form: no dots, and no small letter at the beginning. -/
structure IsClean (name : String) : Prop where
  no_dot : '.' ∉ name.toList
  not_lower : ∀ c ∈ name.toList.head?, c.isLower = false

/-- Raising a letter neither makes another character nor changes one. -/
theorem toUpper_eq_iff {d : Char} (h : d.isAlpha = false) (c : Char) : c.toUpper = d ↔ c = d := by
  have hletter : ∀ c : Char, c.isAlpha = true → (c != d) = true := by
    intro c hc
    rw [bne_iff_ne]
    rintro rfl
    rw [hc] at h
    cases h
  have hsame := TypeSyntax.apply_toUpper hletter c
  rw [Bool.eq_iff_iff, bne_iff_ne, bne_iff_ne] at hsame
  exact not_iff_not.mp hsame

/-- Raising the first letter matters for letters only. -/
theorem mem_raiseFirst_iff {d : Char} (h : d.isAlpha = false) (s : List Char) : d ∈ raiseFirst s ↔ d ∈ s := by
  cases s with
  | nil => rfl
  | cons first rest => rw [raiseFirst, List.mem_cons, List.mem_cons, eq_comm, toUpper_eq_iff h, eq_comm]

/-- **Cleaning cleans.** -/
theorem isClean_cleanName (name : String) : IsClean (cleanName name) := by
  refine ⟨?_, isLower_head?_cleanName name⟩
  rw [toList_cleanName, clean, mem_raiseFirst_iff (by decide)]
  intro hdot
  obtain ⟨c, _, hc⟩ := List.mem_map.mp hdot
  exact dotToUnderscore_ne_dot c hc

/-! ## Nothing to clean -/

theorem dropOneOf_of_forall_not {starts : List (List Char)} {s : List Char} (h : ∀ start ∈ starts, ¬ start <+: s) :
    dropOneOf starts s = s := by
  induction starts with
  | nil => rfl
  | cons start others ih =>
      have hstart : ¬ start.isPrefixOf s = true := by
        rw [List.isPrefixOf_iff_prefix]
        exact h start List.mem_cons_self
      rw [dropOneOf, if_neg hstart]
      exact ih fun other hother => h other (List.mem_cons_of_mem _ hother)

theorem map_dotToUnderscore_of_not_mem {s : List Char} (h : '.' ∉ s) : s.map dotToUnderscore = s := by
  have hsame : ∀ c ∈ s, dotToUnderscore c = c := by
    intro c hc
    apply if_neg
    rintro rfl
    exact h hc
  rw [List.map_congr_left hsame, List.map_id']

theorem raiseFirst_of_not_lower {s : List Char} (h : ∀ c ∈ s.head?, c.isLower = false) : raiseFirst s = s := by
  cases s with
  | nil => rfl
  | cons first rest =>
      have hfirst : ¬ first.isLower = true := by
        rw [Bool.not_eq_true]
        exact h first rfl
      rw [raiseFirst, Char.toUpper_eq_of_not_isLower hfirst]

/-- **Clean names** are those that cleaning leaves alone. -/
theorem cleanName_eq_self_iff (name : String) : cleanName name = name ↔ IsClean name := by
  constructor
  · intro h
    rw [← h]
    exact isClean_cleanName name
  · intro h
    -- a namespace in front would bring its dot along
    have hdots : ∀ start ∈ namespaces, '.' ∈ start := by decide
    have hnone : ∀ start ∈ namespaces, ¬ start <+: name.toList :=
      fun start hstart hstarts => h.no_dot (hstarts.subset (hdots start hstart))
    rw [← String.toList_inj, toList_cleanName, clean, dropOneOf_of_forall_not hnone,
      map_dotToUnderscore_of_not_mem h.no_dot, raiseFirst_of_not_lower h.not_lower]

/-! ## Namespaces in front -/

/-- Behind a namespace the other namespaces are not looked for. -/
theorem clean_behind {start : List Char} (h : start ∈ namespaces) (s : List Char) :
    clean (start ++ s) = raiseFirst (s.map dotToUnderscore) := by
  have hdrop : ∀ start ∈ namespaces, dropOneOf namespaces (start ++ s) = s := by
    simp only [namespaces, List.forall_mem_cons]
    exact ⟨rfl, rfl, rfl, List.forall_mem_nil _⟩
  rw [clean, hdrop start h]

theorem cleanName_behind {start : String} (h : start.toList ∈ namespaces) (name : String) :
    cleanName (start ++ name) = String.ofList (raiseFirst (name.toList.map dotToUnderscore)) := by
  rw [cleanName, String.toList_append, clean_behind h]

theorem length_raiseFirst (s : List Char) : (raiseFirst s).length = s.length := by
  cases s <;> rfl

theorem length_clean_behind {start : List Char} (h : start ∈ namespaces) (s : List Char) :
    (clean (start ++ s)).length = s.length := by
  rw [clean_behind h, length_raiseFirst, List.length_map]

/-- **A namespace in front** changes nothing exactly when there is none yet: a second one would stay. -/
theorem clean_behind_eq_clean_iff {start : List Char} (h : start ∈ namespaces) (s : List Char) :
    clean (start ++ s) = clean s ↔ ∀ other ∈ namespaces, ¬ other <+: s := by
  constructor
  · rintro heq other hother ⟨rest, rfl⟩
    -- the one name is as long as all that is behind the first namespace, the other is shorter
    have hlength := congrArg List.length heq
    rw [length_clean_behind h, length_clean_behind hother, List.length_append] at hlength
    have hpos : ∀ other ∈ namespaces, 0 < other.length := by decide
    have hother := hpos other hother
    omega
  · intro hnone
    rw [clean_behind h, clean, dropOneOf_of_forall_not hnone]

/-- The name begins with a namespace. -/
def HasNamespace (name : String) : Prop :=
  ∃ rest, name = "common." ++ rest ∨ name = "entities." ++ rest ∨ name = "responses." ++ rest

theorem toList_prefix_iff (start name : String) : start.toList <+: name.toList ↔ ∃ rest, name = start ++ rest := by
  constructor
  · rintro ⟨rest, hrest⟩
    refine ⟨String.ofList rest, ?_⟩
    rw [← String.toList_inj, String.toList_append, String.toList_ofList, hrest]
  · rintro ⟨rest, rfl⟩
    rw [String.toList_append]
    exact List.prefix_append _ _

theorem not_hasNamespace_iff (name : String) :
    ¬ HasNamespace name ↔ ∀ start ∈ namespaces, ¬ start <+: name.toList := by
  simp only [HasNamespace, namespaces, List.forall_mem_cons, toList_prefix_iff, exists_or, not_or, List.not_mem_nil,
    false_implies, implies_true, and_true]

/-- **Cleaning is a normal form.**

* What is cleaned is clean.
* The names that are clean, and no others, are left alone; so cleaning twice is cleaning once.
* All three namespaces in front of a name give the same name, and it is the name without a namespace in front exactly when
  the name does not begin with a namespace itself. -/
theorem cleanName_normalizes (name : String) :
    IsClean (cleanName name) ∧ (cleanName name = name ↔ IsClean name) ∧
      cleanName (cleanName name) = cleanName name ∧
      cleanName ("common." ++ name) = cleanName ("entities." ++ name) ∧
      cleanName ("entities." ++ name) = cleanName ("responses." ++ name) ∧
      (cleanName ("common." ++ name) = cleanName name ↔ ¬ HasNamespace name) := by
  have hclean : IsClean (cleanName name) := isClean_cleanName name
  have hcommon : "common.".toList ∈ namespaces := by decide
  have hentities : "entities.".toList ∈ namespaces := by decide
  have hresponses : "responses.".toList ∈ namespaces := by decide
  refine ⟨hclean, cleanName_eq_self_iff name, (cleanName_eq_self_iff _).mpr hclean, ?_, ?_, ?_⟩
  · rw [cleanName_behind hcommon, cleanName_behind hentities]
  · rw [cleanName_behind hentities, cleanName_behind hresponses]
  · rw [not_hasNamespace_iff, ← clean_behind_eq_clean_iff hcommon, ← String.toList_inj, toList_cleanName,
      toList_cleanName, String.toList_append]

example : cleanName "common.entities.user" = "Entities_user" := by decide

end ApiTypes.Name
