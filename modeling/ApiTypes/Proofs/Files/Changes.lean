/-
# What writing does to a tree

Writing a file makes the directories that are missing above it and then puts the text in its place.  Up to the last step
nothing is lost: what was at a place is there still, and all that is new are directories on the trail of the path
(`FileTree.Adds`).

* `FileTree.makeDirectories_cons`: what can happen when one directory is made with those above it.
* `FileTree.adds_of_makeDirectories`: only missing directories of the trail are made, whether or not all can be made.
* `FileTree.makeDirectories_isOk_iff`: they can be made exactly when there is no file on the trail.
* `FileTree.writing_of_writeOutput`: what can happen when a text is written.
* `FileTree.writeOutput_isOk_iff`, `FileTree.writeOutput_nullByte_iff`: when a text is written, and when it is the character
  NUL that keeps it from being written.
-/
import ApiTypes.Files.Output
import ApiTypes.Proofs.Files.Resolution

namespace ApiTypes

/-! ## Trails with their end -/

/-- The trail of a path is that of the path above it, and the place where the path ends. -/
theorem Path.mem_trail_iff {path : Path} {q : Place} : q ∈ path.trail ↔ q ∈ path.parent.trail ∨ q = path.place := by
  obtain ⟨parts⟩ := path
  rcases List.eq_nil_or_concat parts with rfl | ⟨before, last, rfl⟩
  · show q ∈ [[]] ↔ q ∈ [[]] ∨ q = []
    rw [List.mem_singleton, or_self]
  · rw [List.concat_eq_append, trail_concat, parent_concat, List.mem_append, List.mem_singleton]

theorem Path.forall_mem_trail_iff {path : Path} {p : Place → Prop} :
    (∀ q ∈ path.trail, p q) ↔ (∀ q ∈ path.parent.trail, p q) ∧ p path.place := by
  constructor
  · intro h
    exact ⟨fun q hq => h q (mem_trail_iff.mpr (.inl hq)), h path.place (mem_trail_iff.mpr (.inr rfl))⟩
  · rintro ⟨habove, hplace⟩ q hq
    rcases mem_trail_iff.mp hq with hq | rfl
    · exact habove q hq
    · exact hplace

/-- A path above one without the character NUL has none either. -/
theorem Path.hasNull_of_parent {path : Path} (h : path.parent.hasNull = true) : path.hasNull = true := by
  obtain ⟨part, hpart, hnull⟩ := List.any_eq_true.mp h
  exact List.any_eq_true.mpr ⟨part, List.dropLast_subset _ hpart, hnull⟩

namespace FileTree

/-! ## New directories -/

/-- What is put where nothing was changes that place and no other. -/
theorem at?_put_of_nothing {tree : FileTree} {place : Place} (h : tree.at? place = none) (node : FileNode) (q : Place) :
    (tree.put place node).at? q = if q = place then some node else tree.at? q := by
  apply at?_put
  rintro rfl
  rw [at?_nil] at h
  cases h

/-- What was at a place is there still, and all that is new are directories at some of the given places. -/
def Adds (places : List Place) (before after : FileTree) : Prop :=
  ∀ q, after.at? q = before.at? q ∨ (before.at? q = none ∧ after.at? q = some .directory ∧ q ∈ places)

namespace Adds

variable {places : List Place} {first second third : FileTree}

theorem refl (places : List Place) (tree : FileTree) : Adds places tree tree := fun _ => .inl rfl

theorem mono {others : List Place} (h : Adds places first second) (hsubset : ∀ q ∈ places, q ∈ others) :
    Adds others first second := fun q =>
  (h q).imp_right fun ⟨hnothing, hdirectory, hmem⟩ => ⟨hnothing, hdirectory, hsubset q hmem⟩

/-- What is there stays. -/
theorem at?_eq {q : Place} {node : FileNode} (h : Adds places first second) (hnode : first.at? q = some node) :
    second.at? q = some node := by
  rcases h q with hsame | ⟨hnothing, _, _⟩
  · rw [hsame, hnode]
  · rw [hnode] at hnothing
    cases hnothing

theorem trans (h : Adds places first second) (h' : Adds places second third) : Adds places first third := by
  intro q
  rcases h q with hsame | ⟨hnothing, hdirectory, hmem⟩
  · rw [← hsame]
    exact h' q
  · exact .inr ⟨hnothing, h'.at?_eq hdirectory, hmem⟩

/-- A directory is put where nothing was. -/
theorem put {tree : FileTree} {place : Place} (hnothing : tree.at? place = none) (hmem : place ∈ places) :
    Adds places tree (tree.put place .directory) := by
  intro q
  rw [at?_put_of_nothing hnothing]
  by_cases hq : q = place
  · subst hq
    exact .inr ⟨hnothing, if_pos rfl, hmem⟩
  · exact .inl (if_neg hq)

/-- Files are neither made nor changed nor lost. -/
theorem file_iff (h : Adds places first second) (q : Place) (content : List UInt8) :
    second.at? q = some (.file content) ↔ first.at? q = some (.file content) := by
  rcases h q with hsame | ⟨hnothing, hdirectory, _⟩
  · rw [hsame]
  · rw [hnothing, hdirectory]
    simp

/-- The content of a file is still found under every path that named it. -/
theorem content?_eq {path : Path} {content : List UInt8} (h : Adds places first second)
    (hcontent : first.content? path = some content) : second.content? path = some content := by
  obtain ⟨htrail, hfile⟩ := content?_eq_some_iff.mp hcontent
  exact content?_eq_some_iff.mpr ⟨fun q hq => h.at?_eq (htrail q hq), h.at?_eq hfile⟩

/-- Once all of the places hold directories, the new tree is known. -/
theorem at?_of_directories (h : Adds places first second) (hall : ∀ q ∈ places, second.at? q = some .directory)
    (q : Place) : second.at? q = (first.at? q).or (if q ∈ places then some .directory else none) := by
  cases hfirst : first.at? q with
  | some node => rw [h.at?_eq hfirst, Option.some_or]
  | none =>
      rw [Option.none_or]
      split
      · rename_i hmem
        exact hall q hmem
      · rename_i hmem
        rcases h q with hsame | ⟨_, _, hplace⟩
        · rw [hsame, hfirst]
        · exact absurd hplace hmem

end Adds

/-! ## One directory -/

variable {tree : FileTree} {path : Path}

theorem isDirectory_iff : tree.isDirectory path = true ↔ ∀ q ∈ path.trail, tree.at? q = some .directory := by
  rw [Path.forall_mem_trail_iff, isDirectory, decide_eq_true_iff, get?_eq_some_iff]

/-- A directory is made where nothing is, if there is a way. -/
theorem makeDirectory_eq_ok_iff {made : FileTree} :
    tree.makeDirectory path = .ok made ↔ (∀ q ∈ path.parent.trail, tree.at? q = some .directory) ∧
      tree.at? path.place = none ∧ made = tree.put path.place .directory := by
  rw [makeDirectory]
  cases hresolve : tree.resolve path with
  | ok place =>
      obtain ⟨rfl, htrail⟩ := resolve_eq_ok_iff.mp hresolve
      cases hplace : tree.at? path.place with
      | some node => simp [hplace]
      | none =>
          show (if (tree.at? path.place).isSome then _ else _) = _ ↔ _
          rw [hplace, and_iff_right htrail, and_iff_right rfl]
          exact (Except.ok.injEq _ _).to_iff.trans eq_comm
  | error fault =>
      exact iff_of_false (by simp) fun h => not_forall_trail_of_resolve_error hresolve h.1

/-- A directory that was made is there, and it is all that is new. -/
theorem makeDirectory_ok {made : FileTree} (h : tree.makeDirectory path = .ok made) :
    Adds path.trail tree made ∧ made.isDirectory path = true := by
  obtain ⟨htrail, hnothing, rfl⟩ := makeDirectory_eq_ok_iff.mp h
  have hadds : Adds path.trail tree (tree.put path.place .directory) :=
    Adds.put hnothing (Path.mem_trail_iff.mpr (.inr rfl))
  refine ⟨hadds, isDirectory_iff.mpr (Path.forall_mem_trail_iff.mpr ⟨fun q hq => hadds.at?_eq (htrail q hq), ?_⟩)⟩
  rw [at?_put_of_nothing hnothing, if_pos rfl]

/-! ## Directories one above the other -/

/-- A check that succeeds holds. -/
private theorem eq_true_of_ite_eq_ok {ε : Type} {b : Bool} {e : ε} (h : (if b then Except.ok () else .error e) = .ok ()) :
    b = true := by
  by_contra hb
  rw [if_neg hb] at h
  cases h

/-- **What can happen** when a directory is made with those above it: nothing changes at first, or those above are made;
then the directory is made, or it is there already, or the way to it is blocked. -/
theorem makeDirectories_cons {name : String} {above : List String} {outcome : Except PathFault Unit} {made : FileTree}
    (h : makeDirectories (name :: above) tree = (outcome, made)) :
    ∃ middle, (middle = tree ∨ ∃ result, makeDirectories above tree = (result, middle)) ∧
      (middle.makeDirectory ⟨(name :: above).reverse⟩ = .ok made ∨
        (made = middle ∧ (outcome = .ok () → made.isDirectory ⟨(name :: above).reverse⟩ = true))) := by
  rw [makeDirectories] at h
  split at h
  · rename_i all hmade
    cases h
    exact ⟨tree, .inl rfl, .inl hmade⟩
  · split at h
    · rename_i fault middle habove
      cases h
      exact ⟨_, .inr ⟨_, habove⟩, .inr ⟨rfl, nofun⟩⟩
    · rename_i middle habove
      refine ⟨middle, .inr ⟨_, habove⟩, ?_⟩
      split at h
      · rename_i all hmade
        cases h
        exact .inl hmade
      · cases h
        exact .inr ⟨rfl, eq_true_of_ite_eq_ok⟩
  · cases h
    exact ⟨tree, .inl rfl, .inr ⟨rfl, eq_true_of_ite_eq_ok⟩⟩

/-- **Only missing directories** of the trail are made, whether or not all of them can be made. -/
theorem adds_of_makeDirectories {parts : List String} {outcome : Except PathFault Unit} {made : FileTree}
    (h : makeDirectories parts tree = (outcome, made)) : Adds (Path.trail ⟨parts.reverse⟩) tree made := by
  induction parts generalizing outcome made with
  | nil =>
      cases h
      exact Adds.refl _ tree
  | cons name above ih =>
      have htrail : ∀ q ∈ Path.trail ⟨above.reverse⟩, q ∈ Path.trail ⟨(name :: above).reverse⟩ := by
        intro q hq
        rw [List.reverse_cons, Path.trail_concat]
        exact List.mem_append_left _ hq
      obtain ⟨middle, hmiddle, hlast⟩ := makeDirectories_cons h
      have habove : Adds (Path.trail ⟨(name :: above).reverse⟩) tree middle := by
        rcases hmiddle with rfl | ⟨result, hresult⟩
        · exact Adds.refl _ _
        · exact (ih hresult).mono htrail
      rcases hlast with hmade | ⟨rfl, _⟩
      · exact habove.trans (makeDirectory_ok hmade).1
      · exact habove

/-- Directories that were made are there. -/
theorem isDirectory_of_makeDirectories {parts : List String} {made : FileTree}
    (h : makeDirectories parts tree = (.ok (), made)) : made.isDirectory ⟨parts.reverse⟩ = true := by
  cases parts with
  | nil =>
      refine isDirectory_iff.mpr fun q hq => ?_
      rw [List.mem_singleton.mp hq]
      exact made.at?_nil
  | cons name above =>
      obtain ⟨middle, _, hmade | ⟨_, hthere⟩⟩ := makeDirectories_cons h
      · exact (makeDirectory_ok hmade).2
      · exact hthere rfl

/-! ## When directories can be made -/

/-- Whether there is no file on the trail of a path. -/
def Clear (tree : FileTree) (path : Path) : Prop :=
  ∀ q ∈ path.trail, ∀ content, tree.at? q ≠ some (.file content)

theorem Clear.parent (h : tree.Clear path) : tree.Clear path.parent :=
  fun q hq => h q (Path.mem_trail_iff.mpr (.inl hq))

theorem Adds.clear_iff {places : List Place} {after : FileTree} (h : Adds places tree after) :
    after.Clear path ↔ tree.Clear path := by
  simp only [Clear, ne_eq, h.file_iff]

theorem clear_of_isDirectory (h : tree.isDirectory path = true) : tree.Clear path := by
  intro q hq content hfile
  rw [isDirectory_iff.mp h q hq] at hfile
  cases hfile

/-- With no file in the way, a directory that cannot be made is there, or the one above it is not. -/
theorem makeDirectory_error {fault : FileFault} (hclear : tree.Clear path)
    (h : tree.makeDirectory path = .error fault) :
    (fault = .missing ∧ tree.isDirectory path.parent = false) ∨ tree.isDirectory path = true := by
  rw [makeDirectory] at h
  cases hresolve : tree.resolve path with
  | ok place =>
      obtain ⟨rfl, htrail⟩ := resolve_eq_ok_iff.mp hresolve
      refine .inr (isDirectory_iff.mpr (Path.forall_mem_trail_iff.mpr ⟨htrail, ?_⟩))
      cases hplace : tree.at? path.place with
      | none => simp [hresolve, hplace] at h
      | some node =>
          cases node with
          | directory => rfl
          | file content => exact absurd hplace (hclear _ (Path.mem_trail_iff.mpr (.inr rfl)) content)
  | error other =>
      rw [hresolve] at h
      cases h
      rcases resolve_error hresolve with hmissing | ⟨q, hq, content, hfile⟩
      · have hno : ¬ tree.isDirectory path.parent = true := fun hparent =>
          not_forall_trail_of_resolve_error hresolve (isDirectory_iff.mp hparent)
        exact .inl ⟨hmissing, eq_false_of_ne_true hno⟩
      · exact absurd hfile (hclear.parent q hq content)

/-- With no file in the way, directories can be made. -/
theorem makeDirectories_of_clear {parts : List String} (h : tree.Clear ⟨parts.reverse⟩) :
    ∃ made, makeDirectories parts tree = (.ok (), made) := by
  induction parts generalizing tree with
  | nil => exact ⟨tree, rfl⟩
  | cons name above ih =>
      have hparent : Path.parent ⟨(name :: above).reverse⟩ = ⟨above.reverse⟩ := by
        rw [List.reverse_cons, Path.parent_concat]
      rw [makeDirectories]
      cases hfirst : tree.makeDirectory ⟨(name :: above).reverse⟩ with
      | ok all => exact ⟨all, rfl⟩
      | error fault =>
          cases fault with
          | missing =>
              -- the directories above are made, so that the second attempt has a way
              obtain ⟨middle, hmiddle⟩ := ih (hparent ▸ h.parent)
              have habove : middle.isDirectory ⟨above.reverse⟩ = true := isDirectory_of_makeDirectories hmiddle
              have hstill := (adds_of_makeDirectories hmiddle).clear_iff.mpr h
              simp only [hmiddle]
              cases hsecond : middle.makeDirectory ⟨(name :: above).reverse⟩ with
              | ok all => exact ⟨all, rfl⟩
              | error other =>
                  rcases makeDirectory_error hstill hsecond with ⟨_, hno⟩ | hthere
                  · rw [hparent, habove] at hno
                    cases hno
                  · exact ⟨middle, by simp only [hthere, if_true]⟩
          | alreadyThere | notDirectory | isDirectory =>
              rcases makeDirectory_error h hfirst with ⟨⟨⟩, _⟩ | hthere
              exact ⟨tree, by simp only [hthere, if_true]⟩

/-- **Directories can be made** exactly when there is no file on the trail. -/
theorem makeDirectories_isOk_iff {parts : List String} :
    (∃ made, makeDirectories parts tree = (.ok (), made)) ↔ tree.Clear ⟨parts.reverse⟩ := by
  constructor
  · rintro ⟨made, h⟩
    have hclear := clear_of_isDirectory (isDirectory_of_makeDirectories h)
    exact (adds_of_makeDirectories h).clear_iff.mp hclear
  · exact makeDirectories_of_clear

/-! ## Texts that are written and texts that are not -/

variable {content : List UInt8} {text : String} {outcome : Except WriteError Unit} {after made : FileTree}

/-- How the writing of a file may end. -/
inductive Writing (tree : FileTree) (path : Path) (content : List UInt8) : Except WriteError Unit → FileTree → Prop
  /-- The character NUL is met before anything is done. -/
  | nullAbove (hnull : path.parent.hasNull = true) : Writing tree path content (.error .nullByte) tree
  /-- A file is in the way of the directories. -/
  | blocked {fault : PathFault} {made : FileTree} (hnull : path.parent.hasNull = false)
      (hblocked : ¬ tree.Clear path.parent) (hadds : Adds path.parent.trail tree made) :
      Writing tree path content (.error (.directory path.parent fault)) made
  /-- The character NUL is met once the directories are there. -/
  | nullName {made : FileTree} (hclear : tree.Clear path.parent) (hadds : Adds path.parent.trail tree made)
      (hnull : path.hasNull = true) : Writing tree path content (.error .nullByte) made
  /-- A directory is in the place of the file. -/
  | onDirectory {made : FileTree} (hclear : tree.Clear path.parent) (hadds : Adds path.parent.trail tree made)
      (htrail : ∀ q ∈ path.parent.trail, made.at? q = some .directory) (hnull : path.hasNull = false)
      (hplace : made.at? path.place = some .directory) :
      Writing tree path content (.error (.file ⟨.isDirectory, path⟩)) made
  /-- The file is written. -/
  | written {made : FileTree} (hclear : tree.Clear path.parent) (hadds : Adds path.parent.trail tree made)
      (htrail : ∀ q ∈ path.parent.trail, made.at? q = some .directory) (hnull : path.hasNull = false)
      (hplace : made.at? path.place ≠ some .directory) :
      Writing tree path content (.ok ()) (made.put path.place (.file content))

/-- Once the directories above are there, a file is written unless a directory is in its place. -/
theorem writeFile_of_trail (htrail : ∀ q ∈ path.parent.trail, tree.at? q = some .directory) :
    tree.writeFile path content =
      if tree.at? path.place = some .directory then .error .isDirectory
      else .ok (tree.put path.place (.file content)) := by
  rw [writeFile, resolve_eq_ok_iff.mpr ⟨rfl, htrail⟩]

/-- **What can happen** when a text is written. -/
theorem writing_of_writeOutput (h : tree.writeOutput path text = (outcome, after)) :
    Writing tree path (Text.encodeUtf8 text) outcome after := by
  have hclear : (∃ made, makeDirectories path.parent.parts.reverse tree = (.ok (), made)) ↔ tree.Clear path.parent := by
    rw [makeDirectories_isOk_iff, List.reverse_reverse]
  have hadds : ∀ {result made}, makeDirectories path.parent.parts.reverse tree = (result, made) →
      Adds path.parent.trail tree made := by
    intro result made hmakes
    have hadds := adds_of_makeDirectories hmakes
    rw [List.reverse_reverse] at hadds
    exact hadds
  rw [writeOutput] at h
  split at h
  · rename_i hnull
    cases h
    exact .nullAbove hnull
  · rename_i hnull
    split at h
    · -- the directories cannot be made
      rename_i fault made hmakes
      cases h
      refine .blocked (eq_false_of_ne_true hnull) (fun hno => ?_) (hadds hmakes)
      obtain ⟨other, hok⟩ := hclear.mpr hno
      rw [hmakes] at hok
      cases hok
    · -- the directories are there, and the rest is decided by the name and the place of the file
      rename_i made hmakes
      have hno := hclear.mp ⟨made, hmakes⟩
      have htrail := isDirectory_iff.mp (isDirectory_of_makeDirectories hmakes)
      rw [List.reverse_reverse] at htrail
      split at h
      · rename_i hname
        cases h
        exact .nullName hno (hadds hmakes) hname
      · rename_i hname
        rw [writeFile_of_trail htrail] at h
        by_cases hplace : made.at? path.place = some .directory
        · rw [if_pos hplace] at h
          cases h
          exact .onDirectory hno (hadds hmakes) htrail (eq_false_of_ne_true hname) hplace
        · rw [if_neg hplace] at h
          cases h
          exact .written hno (hadds hmakes) htrail (eq_false_of_ne_true hname) hplace

/-- **A text that is not written** leaves nothing behind but directories above where it should have been. -/
theorem writeOutput_error {e : WriteError} (h : tree.writeOutput path text = (.error e, after)) :
    Adds path.parent.trail tree after := by
  cases writing_of_writeOutput h with
  | nullAbove _ => exact Adds.refl _ tree
  | blocked _ _ hadds => exact hadds
  | nullName _ hadds _ => exact hadds
  | onDirectory _ hadds _ _ _ => exact hadds

/-- **A text that is written** stands at the place that the path spells; the directories above it are there. -/
theorem writeOutput_ok (h : tree.writeOutput path text = (.ok (), after)) :
    ∃ made, Adds path.parent.trail tree made ∧ (∀ q ∈ path.parent.trail, made.at? q = some .directory) ∧
      made.at? path.place ≠ some .directory ∧ after = made.put path.place (.file (Text.encodeUtf8 text)) := by
  cases writing_of_writeOutput h with
  | written _ hadds htrail _ hplace => exact ⟨_, hadds, htrail, hplace, rfl⟩

/-- **The character NUL** is noticed when no file is in the way of the directories above, or if it stands in one of their
names. -/
theorem writeOutput_nullByte_iff : (∃ after, tree.writeOutput path text = (.error .nullByte, after)) ↔
    path.hasNull = true ∧ (path.parent.hasNull = true ∨ tree.Clear path.parent) := by
  cases houtput : tree.writeOutput path text with
  | mk outcome after =>
      cases writing_of_writeOutput houtput with
      | nullAbove hnull => exact iff_of_true ⟨tree, rfl⟩ ⟨Path.hasNull_of_parent hnull, .inl hnull⟩
      | blocked hnull hblocked _ => simp [hnull, hblocked]
      | nullName hclear _ hnull => exact iff_of_true ⟨_, rfl⟩ ⟨hnull, .inr hclear⟩
      | onDirectory _ _ _ hnull _ => simp [hnull]
      | written _ _ _ hnull _ => simp [hnull]

/-- **A text is written** exactly when the path has no character NUL and no file on the trail above its end, and what it
spells is neither a directory nor on that trail. -/
theorem writeOutput_isOk_iff : (∃ after, tree.writeOutput path text = (.ok (), after)) ↔
    path.hasNull = false ∧ tree.Clear path.parent ∧ tree.at? path.place ≠ some .directory ∧
      path.place ∉ path.parent.trail := by
  cases houtput : tree.writeOutput path text with
  | mk outcome after =>
      cases writing_of_writeOutput houtput with
      | nullAbove hnull =>
          refine iff_of_false (by simp) ?_
          rintro ⟨hno, _⟩
          rw [Path.hasNull_of_parent hnull] at hno
          cases hno
      | blocked _ hblocked _ => exact iff_of_false (by simp) fun h => hblocked h.2.1
      | nullName _ _ hnull => simp [hnull]
      | onDirectory _ hadds _ _ hplace =>
          refine iff_of_false (by simp) ?_
          rintro ⟨_, _, hother, hoff⟩
          rcases hadds path.place with hsame | ⟨_, _, hon⟩
          · exact hother (hsame ▸ hplace)
          · exact hoff hon
      | written hclear hadds htrail hnull hplace =>
          refine iff_of_true ⟨_, rfl⟩ ⟨hnull, hclear, ?_, ?_⟩
          · intro hdirectory
            exact hplace (hadds.at?_eq hdirectory)
          · intro hon
            exact hplace (htrail _ hon)

end FileTree

end ApiTypes
