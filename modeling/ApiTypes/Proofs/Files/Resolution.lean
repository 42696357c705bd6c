/-
# Where paths lead

A path is followed part by part, and each part but the last has to lead to a directory.  The places on the way are the
trail of the path (`Place.trail`); they can be read off the path alone.

* `FileTree.walk_eq_ok_iff`: a list of parts can be followed exactly when its trail consists of directories.
* `FileTree.resolve_eq_ok_iff`: a path leads to the place that it spells, if the trail above it consists of directories.
-/
import ApiTypes.Files.Tree
import Mathlib.Data.List.Basic

namespace ApiTypes

/-! ## Trails -/

namespace Place

/-- The places on the way along a list of parts, from the place where it starts to the one where it ends. -/
def trail (place : Place) : List String → List Place
  | [] => [place]
  | part :: rest => place :: trail (next place part) rest

theorem mem_trail_self (place : Place) (parts : List String) : place ∈ trail place parts := by
  cases parts <;> exact List.mem_cons_self

/-- One more part leads on from where the others end. -/
theorem trail_concat (place : Place) (parts : List String) (part : String) :
    trail place (parts ++ [part]) = trail place parts ++ [next (parts.foldl next place) part] := by
  induction parts generalizing place with
  | nil => rfl
  | cons first rest ih =>
      rw [List.cons_append, trail, trail, ih (next place first)]
      rfl

end Place

namespace Path

/-- The places on the way along a path, from the root to the place that the path spells. -/
def trail (p : Path) : List Place := Place.trail [] p.parts

@[simp] theorem place_nil : place ⟨[]⟩ = [] := rfl

@[simp] theorem trail_nil : trail ⟨[]⟩ = [[]] := rfl

theorem place_concat (parts : List String) (part : String) :
    place ⟨parts ++ [part]⟩ = Place.next (place ⟨parts⟩) part := by
  rw [place, List.foldl_append]
  rfl

theorem trail_concat (parts : List String) (part : String) :
    trail ⟨parts ++ [part]⟩ = trail ⟨parts⟩ ++ [place ⟨parts ++ [part]⟩] := by
  rw [trail, Place.trail_concat, place_concat]
  rfl

theorem parent_concat (parts : List String) (part : String) : parent ⟨parts ++ [part]⟩ = ⟨parts⟩ := by
  rw [parent, List.dropLast_concat]

end Path

/-! ## Following parts -/

namespace FileTree

variable {tree : FileTree}

theorem at?_nil (tree : FileTree) : tree.at? [] = some .directory := if_pos rfl

/-- A part can be followed exactly when it leads to a directory. -/
theorem step_eq_ok_iff {place target : Place} {part : String} :
    tree.step place part = .ok target ↔ target = place.next part ∧ tree.at? target = some .directory := by
  unfold step
  split
  · rename_i hdirectory
    constructor
    · intro hstep
      cases hstep
      exact ⟨rfl, hdirectory⟩
    · rintro ⟨rfl, _⟩
      rfl
  · rename_i hfile
    refine iff_of_false (by simp) ?_
    rintro ⟨rfl, hdirectory⟩
    rw [hfile] at hdirectory
    cases hdirectory
  · rename_i hnothing
    refine iff_of_false (by simp) ?_
    rintro ⟨rfl, hdirectory⟩
    rw [hnothing] at hdirectory
    cases hdirectory

/-- A part that cannot be followed leads to a file, or to nothing. -/
theorem step_error {place : Place} {part : String} {fault : FileFault} (h : tree.step place part = .error fault) :
    fault = .missing ∨ ∃ content, tree.at? (place.next part) = some (.file content) := by
  unfold step at h
  split at h
  · cases h
  · rename_i content hfile
    exact .inr ⟨content, hfile⟩
  · cases h
    exact .inl rfl

/-- **Parts can be followed** exactly when their trail consists of directories. -/
theorem walk_eq_ok_iff {place target : Place} {parts : List String} (h : tree.at? place = some .directory) :
    tree.walk place parts = .ok target ↔
      target = parts.foldl Place.next place ∧ ∀ q ∈ place.trail parts, tree.at? q = some .directory := by
  induction parts generalizing place with
  | nil =>
      rw [walk, Place.trail, List.foldl_nil, Except.ok.injEq]
      constructor
      · rintro rfl
        exact ⟨rfl, fun q hq => List.mem_singleton.mp hq ▸ h⟩
      · rintro ⟨rfl, _⟩
        rfl
  | cons part rest ih =>
      rw [walk, Place.trail, List.foldl_cons, List.forall_mem_cons]
      cases hstep : tree.step place part with
      | ok next =>
          obtain ⟨rfl, hnext⟩ := step_eq_ok_iff.mp hstep
          exact (ih hnext).trans (and_congr_right fun _ => (and_iff_right h).symm)
      | error fault =>
          -- the way ends where the part leads, which is no directory
          refine iff_of_false (by simp) ?_
          rintro ⟨_, _, htrail⟩
          have hnext := htrail _ (Place.mem_trail_self _ rest)
          rw [step_eq_ok_iff.mpr ⟨rfl, hnext⟩] at hstep
          cases hstep

/-- When parts cannot be followed, something is missing or there is a file on their trail. -/
theorem walk_error {place : Place} {parts : List String} {fault : FileFault}
    (herror : tree.walk place parts = .error fault) :
    fault = .missing ∨ ∃ q ∈ place.trail parts, ∃ content, tree.at? q = some (.file content) := by
  induction parts generalizing place with
  | nil => cases herror
  | cons part rest ih =>
      rw [walk] at herror
      cases hstep : tree.step place part with
      | ok next =>
          obtain ⟨rfl, _⟩ := step_eq_ok_iff.mp hstep
          rw [hstep] at herror
          refine (ih herror).imp_right ?_
          rintro ⟨q, hq, hfile⟩
          exact ⟨q, List.mem_cons_of_mem _ hq, hfile⟩
      | error other =>
          rw [hstep] at herror
          cases herror
          refine (step_error hstep).imp_right fun hfile => ?_
          exact ⟨_, List.mem_cons_of_mem _ (Place.mem_trail_self _ rest), hfile⟩

/-- Once the parts above the last one are followed, only the last one counts. -/
theorem resolve_of_walk {path : Path} {above : Place} (h : tree.walk [] path.parent.parts = .ok above) :
    tree.resolve path = .ok path.place := by
  obtain ⟨parts⟩ := path
  obtain ⟨habove, _⟩ := (walk_eq_ok_iff tree.at?_nil).mp h
  rw [resolve, show tree.walk [] parts.dropLast = .ok above from h]
  rcases List.eq_nil_or_concat parts with rfl | ⟨before, last, rfl⟩
  · rw [habove]
    rfl
  · rw [List.concat_eq_append] at habove ⊢
    have hbefore : above = Path.place ⟨before⟩ := by
      rw [habove, Path.parent_concat]
      rfl
    simp only [List.getLast?_concat, Path.place_concat, hbefore]

theorem resolve_of_walk_error {path : Path} {fault : FileFault} (h : tree.walk [] path.parent.parts = .error fault) :
    tree.resolve path = .error fault := by
  rw [resolve, show tree.walk [] path.parts.dropLast = .error fault from h]

/-- **A path leads** to the place that it spells, if the trail above it consists of directories, and nowhere else. -/
theorem resolve_eq_ok_iff {path : Path} {place : Place} :
    tree.resolve path = .ok place ↔ place = path.place ∧ ∀ q ∈ path.parent.trail, tree.at? q = some .directory := by
  have hwalk : ∀ target, tree.walk [] path.parent.parts = .ok target ↔ target = path.parent.place ∧
      ∀ q ∈ path.parent.trail, tree.at? q = some .directory := fun target => walk_eq_ok_iff tree.at?_nil
  cases hsteps : tree.walk [] path.parent.parts with
  | ok above =>
      obtain ⟨_, htrail⟩ := (hwalk above).mp hsteps
      rw [resolve_of_walk hsteps, Except.ok.injEq, eq_comm]
      exact (and_iff_left htrail).symm
  | error fault =>
      rw [resolve_of_walk_error hsteps]
      refine iff_of_false (by simp) ?_
      rintro ⟨_, htrail⟩
      rw [(hwalk _).mpr ⟨rfl, htrail⟩] at hsteps
      cases hsteps

/-- A path that leads nowhere has a place missing on its trail, or a file. -/
theorem resolve_error {path : Path} {fault : FileFault} (h : tree.resolve path = .error fault) :
    fault = .missing ∨ ∃ q ∈ path.parent.trail, ∃ content, tree.at? q = some (.file content) := by
  cases hsteps : tree.walk [] path.parent.parts with
  | ok above =>
      rw [resolve_of_walk hsteps] at h
      cases h
  | error other =>
      rw [resolve_of_walk_error hsteps] at h
      cases h
      exact walk_error hsteps

theorem not_forall_trail_of_resolve_error {path : Path} {fault : FileFault} (h : tree.resolve path = .error fault) :
    ¬ ∀ q ∈ path.parent.trail, tree.at? q = some .directory := by
  intro htrail
  rw [resolve_eq_ok_iff.mpr ⟨rfl, htrail⟩] at h
  cases h

/-! ## What a path names -/

theorem get?_eq_some_iff {path : Path} {node : FileNode} : tree.get? path = some node ↔
    (∀ q ∈ path.parent.trail, tree.at? q = some .directory) ∧ tree.at? path.place = some node := by
  rw [get?]
  cases hresolve : tree.resolve path with
  | ok place =>
      obtain ⟨rfl, htrail⟩ := resolve_eq_ok_iff.mp hresolve
      exact (and_iff_right htrail).symm
  | error fault =>
      exact iff_of_false (by simp) fun h => not_forall_trail_of_resolve_error hresolve h.1

theorem content?_eq_some_iff {path : Path} {content : List UInt8} : tree.content? path = some content ↔
    (∀ q ∈ path.parent.trail, tree.at? q = some .directory) ∧ tree.at? path.place = some (.file content) := by
  rw [← get?_eq_some_iff, content?]
  split
  · rename_i hfile
    rw [hfile, Option.some.injEq, Option.some.injEq, FileNode.file.injEq]
  · rename_i hno
    exact iff_of_false (by simp) (hno content)

end FileTree

end ApiTypes
