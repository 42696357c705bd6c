/-
# How a run may fail

A run that fails should fail with one of the errors that a user has to expect, and the program should say so in one line.
Two faults slip through: a scalar at which the reading of the document stops, and the character NUL in the path of the
output.  Within the limits of what is described here nothing else does, whatever the file of the document holds, wherever
the output is to go, and however the libraries read YAML and check documents.

* `FileTree.loadWith_datum_iff`: when the reading of a document stops at a scalar.
* `Libraries.hasFaultyScalar_of_stopsAt`: the reader of this project stops only at scalars that their tags do not allow.
* `Job.runWith_unexpected_iff`: when a run fails with an error that is not to be expected.
* `CommandLine.Request.run_documented_iff`: a request ends as documented unless one of the two faults is met.
-/
import ApiTypes.CommandLine.Session
import ApiTypes.Proofs.Run.Effects
import ApiTypes.Proofs.Yaml.Faults

namespace ApiTypes

/-! ## Documents whose reading stops at a scalar -/

/-- The reading of a file stops at a scalar: in YAML where the library says so, in JSON at a whole number that has too many
digits. -/
inductive Libraries.StopsAt (libraries : Libraries) (path : Path) (content : List UInt8) : Yaml.DatumFault → Prop
  | yaml {fault : Yaml.DatumFault} (name : path.isYaml = true)
      (read : libraries.readYaml content = .error (.content (.datum fault))) : StopsAt libraries path content fault
  | json {text : List Char} {digits : Nat} {position : Text.Position} (name : path.isYaml = false)
      (decoded : Text.decodeUtf8 content = .ok text)
      (read : Json.read (Text.unifyLineEnds text) = .error ⟨.longNumber digits, position⟩) :
      StopsAt libraries path content (.digits digits)

theorem mapError_eq_error_iff {α ε ε' : Type} {f : ε → ε'} {result : Except ε α} {e' : ε'} :
    result.mapError f = .error e' ↔ ∃ e, result = .error e ∧ f e = e' := by
  cases result <;> simp [Except.mapError]

theorem LoadError.ofYaml_eq_datum_iff {path : Path} {e : Yaml.FileError} {fault : Yaml.DatumFault} :
    ofYaml path e = .datum fault ↔ e = .content (.datum fault) := by
  rcases e with utf8 | error
  · simp [ofYaml]
  · cases error <;> simp [ofYaml]

theorem LoadError.ofJson_eq_datum_iff {path : Path} {e : Json.Error} {fault : Yaml.DatumFault} :
    ofJson path e = .datum fault ↔ ∃ digits, e.cause = .longNumber digits ∧ fault = .digits digits := by
  obtain ⟨cause, position⟩ := e
  cases cause <;> simp [ofJson, eq_comm]

theorem Libraries.readContent_datum_iff {libraries : Libraries} {path : Path} {content : List UInt8}
    {fault : Yaml.DatumFault} :
    libraries.readContent path content = .error (.datum fault) ↔ libraries.StopsAt path content fault := by
  cases hyaml : path.isYaml with
  | true =>
      rw [readContent, if_pos hyaml, mapError_eq_error_iff]
      constructor
      · rintro ⟨e, hread, he⟩
        exact .yaml hyaml (LoadError.ofYaml_eq_datum_iff.mp he ▸ hread)
      · rintro (⟨_, hread⟩ | ⟨hjson, _⟩)
        · exact ⟨_, hread, rfl⟩
        · rw [hyaml] at hjson
          cases hjson
  | false =>
      rw [readContent, if_neg (by simp [hyaml])]
      constructor
      · intro h
        cases hdecode : Text.decodeUtf8 content with
        | error utf8 =>
            rw [hdecode] at h
            cases h
        | ok text =>
            rw [hdecode] at h
            obtain ⟨⟨cause, position⟩, hread, he⟩ := mapError_eq_error_iff.mp h
            obtain ⟨digits, rfl, rfl⟩ := LoadError.ofJson_eq_datum_iff.mp he
            exact .json hyaml hdecode hread
      · rintro (⟨hname, _⟩ | ⟨_, hdecode, hread⟩)
        · rw [hyaml] at hname
          cases hname
        · rw [hdecode]
          exact mapError_eq_error_iff.mpr ⟨_, hread, rfl⟩

/-- **A document is not loaded because of a scalar** exactly when its reading stops there. -/
theorem FileTree.loadWith_datum_iff {libraries : Libraries} {tree : FileTree} {path : Path} {fault : Yaml.DatumFault} :
    tree.loadWith libraries path = .error (.datum fault) ↔
      ∃ content, tree.content? path = some content ∧ libraries.StopsAt path content fault := by
  simp only [← Libraries.readContent_datum_iff]
  rw [loadWith]
  cases tree.content? path with
  | none => simp
  | some content =>
      cases hread : libraries.readContent path content with
      | error e => simp [hread]
      | ok value => cases value <;> simp [hread]

/-- Where the reading of a file stops with the reader of this project, a scalar is at fault in the YAML text, or a number in
the JSON text has too many digits. -/
theorem Libraries.hasFaultyScalar_of_stopsAt {path : Path} {content : List UInt8} {fault : Yaml.DatumFault}
    (h : standard.StopsAt path content fault) :
    (path.isYaml = true ∧ ∃ text, Text.decodeUtf8Blocks yamlBlockSize content = .ok text ∧
      Yaml.HasFaultyScalar (Text.unifyLineEnds text) fault) ∨
    path.isYaml = false ∧ ∃ digits, fault = .digits digits := by
  rcases h with ⟨hyaml, hread⟩ | ⟨hjson, _, _⟩
  · change Yaml.readFile content = .error (.content (.datum fault)) at hread
    rw [Yaml.readFile] at hread
    split at hread
    · cases hread
    · rename_i text hdecode
      obtain ⟨e, htext, he⟩ := mapError_eq_error_iff.mp hread
      cases he
      exact .inl ⟨hyaml, text, hdecode, Yaml.hasFaultyScalar_of_read htext⟩
  · exact .inr ⟨hjson, _, rfl⟩

/-! ## Errors that are not to be expected -/

theorem RunError.isExpected_eq_false_iff {e : RunError} :
    e.isExpected = false ↔
      (∃ fault, e = .load (.datum fault)) ∨ (∃ path what, e = .load (.unsupported path what)) ∨
        e = .write .nullByte := by
  cases e with
  | load error => cases error <;> simp [RunError.isExpected]
  | document error => simp [RunError.isExpected]
  | write error => cases error <;> simp [RunError.isExpected]

namespace Job

variable {libraries : Libraries} {job : Job} {tree : FileTree}

/-- Whether a module is made and the character NUL is met when it is to be written: in the name of a directory above the
output, or in that of the output itself once the directories above it are there. -/
def MeetsNull (libraries : Libraries) (job : Job) (tree : FileTree) : Prop :=
  (∃ g, job.generateWith libraries tree = .ok g) ∧ job.output.hasNull = true ∧
    (job.output.parent.hasNull = true ∨ tree.Clear job.output.parent)

/-- The error of a document is that of the run. -/
theorem runWith_load_iff (fault : LoadError) (hvalid : fault ≠ .invalid job.input) :
    (∃ after, job.runWith libraries tree = (.error (.load fault), after)) ↔
      tree.loadWith libraries job.input = .error fault := by
  constructor
  · rintro ⟨after, h⟩
    rcases runWith_eq_error_iff.mp h with ⟨hgenerate, _⟩ | ⟨_, _, _, _, ⟨⟩⟩
    rcases generateWith_error hgenerate with ⟨_, hload, ⟨⟩⟩ | ⟨⟨⟩⟩ | ⟨_, ⟨⟩⟩
    · exact hload
    · exact absurd rfl hvalid
  · intro hload
    exact ⟨tree, runWith_eq_error_iff.mpr (.inl ⟨generateWith_of_load_error hload, rfl⟩)⟩

theorem runWith_nullByte_iff :
    (∃ after, job.runWith libraries tree = (.error (.write .nullByte), after)) ↔ job.MeetsNull libraries tree := by
  constructor
  · rintro ⟨after, h⟩
    rcases runWith_eq_error_iff.mp h with ⟨hgenerate, _⟩ | ⟨g, _, hgenerate, hwrite, ⟨⟩⟩
    · rcases generateWith_error hgenerate with ⟨_, _, ⟨⟩⟩ | ⟨⟨⟩⟩ | ⟨_, ⟨⟩⟩
    · exact ⟨⟨g, hgenerate⟩, FileTree.writeOutput_nullByte_iff.mp ⟨after, hwrite⟩⟩
  · rintro ⟨⟨g, hgenerate⟩, hnull⟩
    have hwrites : ∃ after, tree.writeOutput job.output g.render = (.error .nullByte, after) :=
      FileTree.writeOutput_nullByte_iff.mpr hnull
    obtain ⟨after, hwrite⟩ := hwrites
    exact ⟨after, runWith_eq_error_iff.mpr (.inr ⟨g, .nullByte, hgenerate, hwrite, rfl⟩)⟩

/-- **An error that is not to be expected** is a scalar at which the reading of the document stops, data that no value holds,
or the character NUL in the path of the output. -/
theorem runWith_unexpected_iff :
    (∃ e after, job.runWith libraries tree = (.error e, after) ∧ e.isExpected = false) ↔
      (∃ content fault, tree.content? job.input = some content ∧ libraries.StopsAt job.input content fault) ∨
        (∃ path what, tree.loadWith libraries job.input = .error (.unsupported path what)) ∨
        job.MeetsNull libraries tree := by
  constructor
  · rintro ⟨e, after, hrun, hunexpected⟩
    rcases RunError.isExpected_eq_false_iff.mp hunexpected with ⟨fault, rfl⟩ | ⟨path, what, rfl⟩ | rfl
    · have hload := (runWith_load_iff (.datum fault) nofun).mp ⟨after, hrun⟩
      obtain ⟨content, hfile, hstops⟩ := FileTree.loadWith_datum_iff.mp hload
      exact .inl ⟨content, fault, hfile, hstops⟩
    · exact .inr (.inl ⟨path, what, (runWith_load_iff (.unsupported path what) nofun).mp ⟨after, hrun⟩⟩)
    · exact .inr (.inr (runWith_nullByte_iff.mp ⟨after, hrun⟩))
  · rintro (⟨content, fault, hfile, hstops⟩ | ⟨path, what, hload⟩ | hnull)
    · have hload := FileTree.loadWith_datum_iff.mpr ⟨content, hfile, hstops⟩
      obtain ⟨after, hrun⟩ := (runWith_load_iff (.datum fault) nofun).mpr hload
      exact ⟨_, after, hrun, rfl⟩
    · obtain ⟨after, hrun⟩ := (runWith_load_iff (.unsupported path what) nofun).mpr hload
      exact ⟨_, after, hrun, rfl⟩
    · obtain ⟨after, hrun⟩ := runWith_nullByte_iff.mpr hnull
      exact ⟨_, after, hrun, rfl⟩

end Job

/-! ## Limits

Calls may be nested to some depth only, and systems bound the length of names.  What happens beyond is not described. -/

/-- How deep brackets, values and directories may be nested. -/
def maxNesting : Nat := 150

/-- Whether a path is one that every system takes. -/
def Path.isShort (p : Path) : Bool :=
  p.parts.length ≤ maxNesting && p.parts.all (fun part => (Text.encodeUtf8 part).length ≤ 255) &&
    (Text.encodeUtf8 p.text).length < 4096

/-- The greatest number of brackets of a JSON text that are open at once, those within quotes left out; `opened` are open
before it. -/
def Json.nesting (quoted : Bool) (opened : Nat) : List Char → Nat
  | [] => opened
  | '\x22' :: rest => nesting (!quoted) opened rest
  | '\\' :: c :: rest => if quoted then nesting true opened rest else nesting false opened (c :: rest)
  | c :: rest =>
    let next :=
      if quoted then opened
      else if c = '[' ∨ c = '{' then opened + 1
      else if c = ']' ∨ c = '}' then opened - 1
      else opened
    max opened (nesting quoted next rest)

mutual

/-- Whether a value has at most the given number of levels, and no whole number with too many digits to be written. -/
def Value.fits (levels : Nat) : Value → Bool
  | .scalar s => !s.isLong
  | .set members => members.all fun member => !member.isLong
  | .list items => 0 < levels && Value.fitAll (levels - 1) items
  | .mapping entries => 0 < levels && Value.fitEach (levels - 1) entries

/-- The same for all values of a list. -/
def Value.fitAll (levels : Nat) : List Value → Bool
  | [] => true
  | item :: rest => item.fits levels && Value.fitAll levels rest

/-- The same for the keys and values of a mapping. -/
def Value.fitEach (levels : Nat) : Entries → Bool
  | [] => true
  | (key, value) :: rest => !key.isLong && value.fits levels && Value.fitEach levels rest

end

/-- Whether the brackets of a JSON document are not nested too deep. -/
def FileTree.bracketsFit (tree : FileTree) (path : Path) : Bool :=
  match (tree.content? path).map Text.decodeUtf8 with
  | some (.ok text) => path.isYaml || Json.nesting false 0 text ≤ maxNesting
  | _ => true

/-- Whether a document, if it can be read, is a value of no more than the size described. -/
def FileTree.documentFits (libraries : Libraries) (tree : FileTree) (path : Path) : Bool :=
  match tree.loadWith libraries path with
  | .ok entries => (Value.mapping entries).fits maxNesting
  | .error (.unsupported _ _) => false
  | .error _ => true

/-! ## What the program says -/

namespace CommandLine.Request

variable {libraries : Libraries} {r : Request} {tree after : FileTree}

/-- Whether a request keeps to what is described of paths, texts and values. -/
structure WithinLimits (libraries : Libraries) (r : Request) (tree : FileTree) : Prop where
  input : r.job.input.isShort = true
  output : r.job.output.isShort = true
  brackets : tree.bracketsFit r.job.input = true
  document : tree.documentFits libraries r.job.input = true

/-- Whether lines are what a request lets a generation log. -/
def MayLog (r : Request) (logged : List String) : Prop :=
  (∀ line ∈ logged, ∃ text, line = logLine text) ∧ (r.verbose = false → logged = [])

theorem mayLog_nil (r : Request) : r.MayLog [] := ⟨nofun, fun _ => rfl⟩

theorem mayLog_log (r : Request) (g : Generated) : r.MayLog (r.log g) := by
  constructor
  · intro line hline
    rw [Request.log] at hline
    split at hline
    · rcases List.mem_append.mp hline with hskipped | hcount
      · obtain ⟨name, _, rfl⟩ := List.mem_map.mp hskipped
        exact ⟨_, rfl⟩
      · exact ⟨_, List.mem_singleton.mp hcount⟩
    · cases hline
  · intro hquiet
    rw [Request.log, hquiet]
    rfl

/-- A job that succeeds ends the program with code 0, and no error is printed. -/
theorem runWith_of_ok {report : Report} (h : r.job.runWith libraries tree = (.ok report, after)) :
    ∃ logged, r.MayLog logged ∧
      r.runWith libraries tree = (⟨0, lines (report.warnings.map ("Warning: " ++ ·) ++
        ["TypeScript types written to " ++ report.output.text]), lines logged⟩, after) := by
  obtain ⟨g, hgenerate, hwrite, rfl⟩ := Job.runWith_eq_ok_iff.mp h
  refine ⟨r.log g, r.mayLog_log g, ?_⟩
  simp only [Request.runWith, hgenerate, Job.write, hwrite]

/-- A job that fails ends the program with code 1, and its error is the last line. -/
theorem runWith_of_error {e : RunError} (h : r.job.runWith libraries tree = (.error e, after)) :
    ∃ logged, r.MayLog logged ∧ r.runWith libraries tree = (⟨1, "", lines (logged ++ [errorLine e])⟩, after) := by
  rcases Job.runWith_eq_error_iff.mp h with ⟨hgenerate, rfl⟩ | ⟨g, fault, hgenerate, hwrite, rfl⟩
  · refine ⟨[], r.mayLog_nil, ?_⟩
    simp only [Request.runWith, hgenerate, List.nil_append]
  · refine ⟨r.log g, r.mayLog_log g, ?_⟩
    simp only [Request.runWith, hgenerate, Job.write, hwrite]

/-- **A request ends as documented**, with code 0 or with code 1 and one line about an error that was to be expected, unless
the reading of the document stops at a scalar or the character NUL is met. -/
theorem run_documented_iff (libraries : Libraries) (r : Request) (tree : FileTree) (h : r.WithinLimits libraries tree) :
    ((∃ report after logged, r.job.runWith libraries tree = (.ok report, after) ∧ r.MayLog logged ∧
        r.runWith libraries tree = (⟨0, lines (report.warnings.map ("Warning: " ++ ·) ++
          ["TypeScript types written to " ++ report.output.text]), lines logged⟩, after)) ∨
      ∃ e after logged, r.job.runWith libraries tree = (.error e, after) ∧ e.isExpected = true ∧ r.MayLog logged ∧
        r.runWith libraries tree = (⟨1, "", lines (logged ++ ["Error: " ++ e.message])⟩, after)) ↔
    ¬ ((∃ content fault, tree.content? r.job.input = some content ∧ libraries.StopsAt r.job.input content fault) ∨
        r.job.MeetsNull libraries tree) := by
  have hunexpected : (∃ e after, r.job.runWith libraries tree = (.error e, after) ∧ e.isExpected = false) ↔
      (∃ content fault, tree.content? r.job.input = some content ∧ libraries.StopsAt r.job.input content fault) ∨
        r.job.MeetsNull libraries tree := by
    rw [Job.runWith_unexpected_iff]
    refine or_congr_right (or_iff_right ?_)
    rintro ⟨path, what, hload⟩
    have hfits := h.document
    rw [FileTree.documentFits, hload] at hfits
    cases hfits
  rw [← hunexpected]
  constructor
  · rintro (⟨report, after, _, hrun, _⟩ | ⟨e, after, _, hrun, hexpected, _⟩) ⟨other, _, hrun', hother⟩
    · rw [hrun] at hrun'
      cases hrun'
    · rw [hrun] at hrun'
      cases hrun'
      rw [hexpected] at hother
      cases hother
  · intro hno
    cases hrun : r.job.runWith libraries tree with
    | mk outcome after =>
        cases outcome with
        | ok report =>
            obtain ⟨logged, hlogged, hend⟩ := runWith_of_ok hrun
            exact .inl ⟨report, after, logged, rfl, hlogged, hend⟩
        | error e =>
            have hexpected : e.isExpected = true := by
              by_contra hother
              exact hno ⟨e, after, hrun, eq_false_of_ne_true hother⟩
            obtain ⟨logged, hlogged, hend⟩ := runWith_of_error hrun
            rw [errorLine, if_pos hexpected] at hend
            exact .inr ⟨e, after, logged, rfl, hexpected, hlogged, hend⟩

/-- Two faults that are not met: a date that is none, in the first of two merged mappings, where the second has an unknown
tag and is built before it; and the character NUL in a name below a file. -/
theorem run_documented_unmet :
    let tree : FileTree := ⟨
      [ (["api.yaml"], .file (Text.encodeUtf8 "x: \x7b<<: [\x7bb: 2020-13-45\x7d, \x7ba: !foo x\x7d]\x7d")),
        (["api.json"], .file (Text.encodeUtf8 "\x7b\x22components\x22: \x7b\x22schemas\x22: \x7b\x7d\x7d\x7d")) ]⟩
    let dated : Request := ⟨"api.yaml", "out.ts", "", false, false⟩
    let named : Request := ⟨"api.json", "api.json/o\x00.ts", "", false, false⟩
    dated.run tree = (⟨1, "", "Error: Failed to parse YAML in api.yaml: ...\n"⟩, tree) ∧
      (∀ content fault, tree.content? dated.job.input = some content →
        ¬ Libraries.standard.StopsAt dated.job.input content fault) ∧
      named.run tree =
        (⟨1, "", "Error: Failed to create output directory api.json: [Errno 17] File exists: 'api.json'\n"⟩, tree) ∧
      ¬ named.job.MeetsNull .standard tree := by
  intro tree dated named
  have hdated : dated.run tree = (⟨1, "", "Error: Failed to parse YAML in api.yaml: ...\n"⟩, tree) := by decide +kernel
  have hnamed : named.run tree =
      (⟨1, "", "Error: Failed to create output directory api.json: [Errno 17] File exists: 'api.json'\n"⟩, tree) := by
    decide +kernel
  refine ⟨hdated, fun content fault hfile hstops => ?_, hnamed, fun hnull => ?_⟩
  · have hlimits : dated.WithinLimits .standard tree :=
      ⟨by decide +kernel, by decide +kernel, by decide +kernel, by decide +kernel⟩
    have hjob : dated.job.run tree = (.error (.load (.yaml dated.job.input .unknownTag)), tree) := by decide +kernel
    refine (run_documented_iff .standard dated tree hlimits).mp ?_ (.inl ⟨content, _, hfile, hstops⟩)
    exact .inr ⟨_, tree, [], hjob, rfl, dated.mayLog_nil, hdated.trans (by decide +kernel)⟩
  · have hlimits : named.WithinLimits .standard tree :=
      ⟨by decide +kernel, by decide +kernel, by decide +kernel, by decide +kernel⟩
    have hjob : named.job.run tree =
        (.error (.write (.directory named.job.output.parent ⟨.alreadyThere, named.job.output.parent⟩)), tree) := by
      decide +kernel
    refine (run_documented_iff .standard named tree hlimits).mp ?_ (.inr hnull)
    exact .inr ⟨_, tree, [], hjob, rfl, named.mayLog_nil, hnamed.trans (by decide +kernel)⟩

/-- A month that is none, and a name with the character NUL in it. -/
theorem run_undocumented :
    let tree := FileTree.single "api.yaml" "released: 2020-13-45\ncomponents:\n  schemas: \x7b\x7d"
    let dated : Request := ⟨"api.yaml", "out.ts", "", false, false⟩
    let other := FileTree.single "api.json" "\x7b\x22components\x22: \x7b\x22schemas\x22: \x7b\x7d\x7d\x7d"
    let named : Request := ⟨"api.json", "o\x00.ts", "", false, false⟩
    dated.job.run tree = (.error (.load (.datum .month)), tree) ∧
      dated.run tree = (⟨1, "", "month must be in 1..12\n"⟩, tree) ∧
      named.job.run other = (.error (.write .nullByte), other) ∧
      named.run other = (⟨1, "", "embedded null byte\n"⟩, other) ∧
      ∀ e : RunError, e = .load (.datum .month) ∨ e = .write .nullByte → e.isExpected = false := by
  intro tree dated other named
  refine ⟨by decide +kernel, by decide +kernel, by decide +kernel, by decide +kernel, ?_⟩
  rintro e (rfl | rfl) <;> rfl

end CommandLine.Request

end ApiTypes
