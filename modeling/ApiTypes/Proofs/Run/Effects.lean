/-
# What a run does to a tree of files

A run goes from stage to stage: the document is loaded, checked and turned into a module, and only then is the tree
touched.  How YAML is read and which documents are valid makes no difference to this, so that all is said for any libraries.

* `Job.generateWith_eq_ok_iff`, `Job.runWith_eq_error_iff`, `Job.runWith_eq_ok_iff`: the stages that lie behind a run when
  it ends.
* `Job.run_error_keeps_files`: a run that fails makes nothing but directories, and none before there is a module.
* `Job.run_ok_writes_module`: a run that succeeds writes the module made of the document, makes the directories that are
  missing above it and changes nothing else; a check of the document makes no difference to it.
* `Job.runWith_isOk_iff`: when a run succeeds.
-/
import ApiTypes.Run
import ApiTypes.Proofs.Files.Changes

namespace ApiTypes

/-! ## Stages of a run -/

/-- A check leaves the document as it is. -/
theorem Libraries.validated_eq_ok_iff {libraries : Libraries} {wanted : Bool} {path : Path} {entries checked : Entries} :
    libraries.validated wanted path entries = .ok checked ↔
      checked = entries ∧ (wanted = true → libraries.isValid (.mapping entries) = true) := by
  unfold validated
  cases wanted <;> cases libraries.isValid (.mapping entries) <;> simp [eq_comm]

/-- A tree with one file. -/
def FileTree.single (name text : String) : FileTree := ⟨[([name], .file (Text.encodeUtf8 text))]⟩

namespace Job

variable {libraries : Libraries} {job : Job} {tree after : FileTree}

/-- There is a module when the document is loaded, valid if that is asked for, and has schemas to be declared. -/
theorem generateWith_eq_ok_iff {g : Generated} : job.generateWith libraries tree = .ok g ↔
    ∃ entries, tree.loadWith libraries job.input = .ok entries ∧
      (job.validate = true → libraries.isValid (.mapping entries) = true) ∧
      Generated.ofValue job.qualifier (.mapping entries) = .ok g := by
  constructor
  · intro h
    rw [generateWith] at h
    split at h
    · cases h
    · rename_i entries hload
      split at h
      · cases h
      · rename_i checked hchecked
        obtain ⟨rfl, hvalid⟩ := Libraries.validated_eq_ok_iff.mp hchecked
        cases hvalue : Generated.ofValue job.qualifier (.mapping checked) with
        | error e =>
            rw [hvalue] at h
            cases h
        | ok generated =>
            rw [hvalue] at h
            cases h
            exact ⟨checked, hload, hvalid, hvalue⟩
  · rintro ⟨entries, hload, hvalid, hvalue⟩
    simp only [generateWith, hload, Libraries.validated_eq_ok_iff.mpr ⟨rfl, hvalid⟩, hvalue]
    rfl

/-- When there is no module, the document could not be loaded, is not valid or has no schemas. -/
theorem generateWith_error {e : RunError} (h : job.generateWith libraries tree = .error e) :
    (∃ fault, tree.loadWith libraries job.input = .error fault ∧ e = .load fault) ∨ e = .load (.invalid job.input) ∨
      ∃ fault, e = .document fault := by
  rw [generateWith] at h
  split at h
  · rename_i fault hload
    cases h
    exact .inl ⟨fault, hload, rfl⟩
  · split at h
    · rename_i fault hinvalid
      unfold Libraries.validated at hinvalid
      split at hinvalid
      · cases hinvalid
        cases h
        exact .inr (.inl rfl)
      · cases hinvalid
    · rename_i checked _
      cases hvalue : Generated.ofValue job.qualifier (.mapping checked) with
      | error fault =>
          rw [hvalue] at h
          cases h
          exact .inr (.inr ⟨fault, rfl⟩)
      | ok g =>
          rw [hvalue] at h
          cases h

theorem generateWith_of_load_error {fault : LoadError} (h : tree.loadWith libraries job.input = .error fault) :
    job.generateWith libraries tree = .error (.load fault) := by
  rw [generateWith, h]

/-- A run fails before there is a module, with the tree as it was, or when the module is written. -/
theorem runWith_eq_error_iff {e : RunError} : job.runWith libraries tree = (.error e, after) ↔
    (job.generateWith libraries tree = .error e ∧ after = tree) ∨
      ∃ g fault, job.generateWith libraries tree = .ok g ∧ tree.writeOutput job.output g.render = (.error fault, after) ∧
        e = .write fault := by
  rw [runWith]
  cases hgenerate : job.generateWith libraries tree with
  | error other => simp [eq_comm]
  | ok g =>
      simp only [Job.write]
      cases hwrite : tree.writeOutput job.output g.render with
      | mk outcome changed => cases outcome <;> simp [hwrite, eq_comm, and_comm]

/-- A run succeeds once its module is written. -/
theorem runWith_eq_ok_iff {report : Report} : job.runWith libraries tree = (.ok report, after) ↔
    ∃ g, job.generateWith libraries tree = .ok g ∧ tree.writeOutput job.output g.render = (.ok (), after) ∧
      report = job.report g := by
  rw [runWith]
  cases hgenerate : job.generateWith libraries tree with
  | error other => simp
  | ok g =>
      simp only [Job.write]
      cases hwrite : tree.writeOutput job.output g.render with
      | mk outcome changed => cases outcome <;> simp [hwrite, eq_comm, and_comm]

/-! ## Runs that fail -/

/-- **A run that fails** neither makes nor changes nor loses a file, and what a path named before it names still; all that
is new are directories above the output, and none of them when no module was made. -/
theorem run_error_keeps_files {e : RunError} (h : job.runWith libraries tree = (.error e, after)) :
    (∀ q content, after.at? q = some (.file content) ↔ tree.at? q = some (.file content)) ∧
      (∀ path content, tree.content? path = some content → after.content? path = some content) ∧
      FileTree.Adds job.output.parent.trail tree after ∧
      ((∀ fault, e ≠ .write fault) → after = tree) := by
  rcases runWith_eq_error_iff.mp h with ⟨_, rfl⟩ | ⟨g, fault, _, hwrite, rfl⟩
  · exact ⟨fun _ _ => Iff.rfl, fun _ _ hcontent => hcontent, FileTree.Adds.refl _ after, fun _ => rfl⟩
  · have hadds := FileTree.writeOutput_error hwrite
    refine ⟨hadds.file_iff, fun _ _ => hadds.content?_eq, hadds, fun hother => ?_⟩
    exact absurd rfl (hother fault)

/-- On the way to the output a directory is made; then the way ends at the document itself, which is no directory. -/
theorem run_error_keeps_files_detour :
    let job : Job := ⟨.ofText "api.yaml", .ofText "new/../api.yaml/out.ts", "", false⟩
    let tree := FileTree.single "api.yaml" "components:\n  schemas:\n    Id: string"
    let after : FileTree := ⟨tree.entries ++ [(["new"], .directory)]⟩
    job.run tree = (.error (.write (.directory job.output.parent ⟨.alreadyThere, job.output.parent⟩)), after) ∧
      after.content? job.input = some (Text.encodeUtf8 "components:\n  schemas:\n    Id: string") := by
  intro job tree after
  have hrun : job.run tree =
      (.error (.write (.directory job.output.parent ⟨.alreadyThere, job.output.parent⟩)), after) := by
    decide +kernel
  obtain ⟨_, hcontent, _, _⟩ := run_error_keeps_files hrun
  exact ⟨hrun, hcontent job.input _ (by decide +kernel)⟩

/-! ## Runs that succeed -/

/-- **A run that succeeds** reports and writes what is made of the document.  Apart from the output there are new
directories above it, where nothing was; and the document need not have been checked. -/
theorem run_ok_writes_module {report : Report} (h : job.runWith libraries tree = (.ok report, after)) :
    (∃ entries g, tree.loadWith libraries job.input = .ok entries ∧
      Generated.ofValue job.qualifier (.mapping entries) = .ok g ∧
      report = ⟨job.output, g.declarations.length, g.warnings⟩ ∧
      after.content? job.output = some (Text.encodeUtf8 g.render) ∧
      ∀ q, after.at? q =
        if q = job.output.place then some (.file (Text.encodeUtf8 g.render))
        else (tree.at? q).or (if q ∈ job.output.parent.trail then some .directory else none)) ∧
    { job with validate := false }.runWith libraries tree = (.ok report, after) := by
  obtain ⟨g, hgenerate, hwrite, rfl⟩ := runWith_eq_ok_iff.mp h
  obtain ⟨entries, hload, _, hvalue⟩ := generateWith_eq_ok_iff.mp hgenerate
  constructor
  · obtain ⟨made, hadds, htrail, hplace, rfl⟩ := FileTree.writeOutput_ok hwrite
    have hroot : job.output.place ≠ [] := by
      intro hnil
      rw [hnil] at hplace
      exact hplace made.at?_nil
    have hput := fun q => FileTree.at?_put made q _ (.file (Text.encodeUtf8 g.render)) hroot
    refine ⟨entries, g, hload, hvalue, rfl, FileTree.content?_eq_some_iff.mpr ⟨fun q hq => ?_, ?_⟩, fun q => ?_⟩
    · -- the output stands in for no directory of its own trail
      have hne : q ≠ job.output.place := by
        rintro rfl
        exact hplace (htrail _ hq)
      rw [hput, if_neg hne, htrail q hq]
    · rw [hput, if_pos rfl]
    · rw [hput, hadds.at?_of_directories htrail]
  · have hunchecked : { job with validate := false }.generateWith libraries tree = .ok g :=
      generateWith_eq_ok_iff.mpr ⟨entries, hload, nofun, hvalue⟩
    exact runWith_eq_ok_iff.mpr ⟨g, hunchecked, hwrite, rfl⟩

/-- The document is replaced by the module made of it; a new directory stays that was on the way. -/
theorem run_ok_writes_module_inPlace :
    let job : Job := ⟨.ofText "api.yaml", .ofText "new/../api.yaml", "", true⟩
    let tree := FileTree.single "api.yaml" ("\n".intercalate
      [ "openapi: 3.0.3", "info:", "  title: Users", "  version: 1.0.0", "paths: \x7b\x7d",
        "components:", "  schemas:", "    User:", "      properties:", "        id:", "          type: string" ])
    let report : Report := ⟨job.output, 1, []⟩
    let after : FileTree :=
      ⟨[(["api.yaml"], .file (Text.encodeUtf8 "export interface User \x7b\n  id?: string;\n\x7d")), (["new"], .directory)]⟩
    job.run tree = (.ok report, after) ∧ { job with validate := false }.run tree = (.ok report, after) ∧
      ∃ g : Generated, after.content? job.output = some (Text.encodeUtf8 g.render) := by
  intro job tree report after
  have hrun : job.run tree = (.ok report, after) := by decide +kernel
  obtain ⟨⟨_, g, _, _, _, hcontent, _⟩, hunchecked⟩ := run_ok_writes_module hrun
  exact ⟨hrun, hunchecked, g, hcontent⟩

/-- **A run succeeds** exactly when a module is made and the path of the output has no character NUL and no file above its
end, and spells neither a directory nor a place on the way. -/
theorem runWith_isOk_iff : (∃ report after, job.runWith libraries tree = (.ok report, after)) ↔
    (∃ g, job.generateWith libraries tree = .ok g) ∧ job.output.hasNull = false ∧ tree.Clear job.output.parent ∧
      tree.at? job.output.place ≠ some .directory ∧ job.output.place ∉ job.output.parent.trail := by
  constructor
  · rintro ⟨report, after, h⟩
    obtain ⟨g, hgenerate, hwrite, _⟩ := runWith_eq_ok_iff.mp h
    exact ⟨⟨g, hgenerate⟩, FileTree.writeOutput_isOk_iff.mp ⟨after, hwrite⟩⟩
  · rintro ⟨⟨g, hgenerate⟩, hpath⟩
    have hwrites : ∃ after, tree.writeOutput job.output g.render = (.ok (), after) :=
      FileTree.writeOutput_isOk_iff.mpr hpath
    obtain ⟨after, hwrite⟩ := hwrites
    exact ⟨job.report g, after, runWith_eq_ok_iff.mpr ⟨g, hgenerate, hwrite, rfl⟩⟩

end Job

end ApiTypes
