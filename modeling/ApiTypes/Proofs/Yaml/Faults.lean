/-
# Scalars that their tags do not allow

A text may follow all rules of YAML and still have no value, because a scalar in it is not of the form that its tag asks
for.  Such a fault is led back to where it comes from.

* `Node.onlyFails_ofScan`: tokens that make no tree break a rule, or break off with the fault of the text.
* `failsAt_buildAs`: a fault in a value is that of a scalar of the tree, or a rule is broken.
* `IsFaulty.tag_mem`: the scalars in question are truth values, numbers and dates.
* `hasFaultyScalar_of_read`: a text without a value breaks a rule or has such a scalar.
-/
import ApiTypes.Yaml.Reader
import ApiTypes.Proofs.Yaml.Tokens

namespace ApiTypes.Yaml

/-! ## From tokens to a tree -/

/-- Whether a fault may be met while a tree is read: it is none of a scalar, or the one at which the tokens break off. -/
def Error.IsMet (last : Option Error) (e : Error) : Prop := last = some e ∨ ∀ fault, e ≠ .datum fault

@[simp] theorem Error.isMet_malformed (last : Option Error) (fault : Fault) : (Error.malformed fault).IsMet last :=
  .inr nofun

@[simp] theorem Error.isMet_unsupported (last : Option Error) (what : Unsupported) : (Error.unsupported what).IsMet last :=
  .inr nofun

namespace Node

@[simp] theorem onlyFails_demand (c : Setting) (tokens : List Token) :
    OnlyFails (Error.IsMet c.fault) (c.demand tokens) := by
  unfold Setting.demand
  split
  · rename_i e hlast
    exact onlyFails_error.mpr (.inl hlast)
  · simp

@[simp] theorem onlyFails_misplaced (c : Setting) (tokens : List Token) {α : Type} :
    OnlyFails (Error.IsMet c.fault) (c.misplaced tokens : Except Error α) := by
  simp [Setting.misplaced]

@[simp] theorem onlyFails_tagName (last : Option Error) (handles : List (String × String))
    (written : Option (Option String × String)) : OnlyFails (Error.IsMet last) (tagName handles written) := by
  unfold tagName
  split
  · simp
  · simp
  · split <;> simp

@[simp] theorem onlyFails_openAnchor (last : Option Error) (anchor : Option String) (anchors : Anchors) :
    OnlyFails (Error.IsMet last) (openAnchor anchor anchors) := by
  unfold openAnchor
  split <;> simp

theorem onlyFails_openNode (c : Setting) (source : Source) :
    OnlyFails (Error.IsMet c.fault) (openNode c source) := by
  simp [openNode]

/-- What the readers of parts report when they may go on for `fuel` calls. -/
structure ReadersOnlyFail (c : Setting) (fuel : Nat) : Prop where
  read : ∀ position source, OnlyFails (Error.IsMet c.fault) (read c fuel position source)
  readContent : ∀ position written mayBeEmpty source,
    OnlyFails (Error.IsMet c.fault) (readContent c fuel position written mayBeEmpty source)
  readItems : ∀ done source, OnlyFails (Error.IsMet c.fault) (readItems c fuel done source)
  readLooseItems : ∀ done source, OnlyFails (Error.IsMet c.fault) (readLooseItems c fuel done source)
  readPart : ∀ source, OnlyFails (Error.IsMet c.fault) (readPart c fuel source)
  readValue : ∀ source, OnlyFails (Error.IsMet c.fault) (readValue c fuel source)
  readEntries : ∀ done source, OnlyFails (Error.IsMet c.fault) (readEntries c fuel done source)
  readPair : ∀ close source, OnlyFails (Error.IsMet c.fault) (readPair c close fuel source)
  readFlowItems : ∀ first done source, OnlyFails (Error.IsMet c.fault) (readFlowItems c fuel first done source)
  readFlowEntries : ∀ first done source, OnlyFails (Error.IsMet c.fault) (readFlowEntries c fuel first done source)

variable {c : Setting} {fuel : Nat}

theorem readersOnlyFail_zero : ReadersOnlyFail c 0 := by
  constructor <;> intros <;> simp [read, readContent, readItems, readLooseItems, readPart, readValue, readEntries,
    readPair, readFlowItems, readFlowEntries]

namespace ReadersOnlyFail

variable (h : ReadersOnlyFail c fuel)

include h

theorem succ_read (position : Position) (source : Source) :
    OnlyFails (Error.IsMet c.fault) (Node.read c (fuel + 1) position source) := by
  rw [Node.read]
  split
  · split <;> simp
  · split
    · exact (onlyFails_openNode c source).error ‹_›
    · split
      · exact (h.readContent _ _ _ _).error ‹_›
      · simp

theorem succ_readContent (position : Position) (written : Option String) (mayBeEmpty : Bool) (source : Source) :
    OnlyFails (Error.IsMet c.fault) (Node.readContent c (fuel + 1) position written mayBeEmpty source) := by
  simp only [Node.readContent]
  split <;> simp [h.readFlowItems, h.readFlowEntries, h.readItems, h.readEntries, h.readLooseItems]

theorem succ_readItems (done : List Node) (source : Source) :
    OnlyFails (Error.IsMet c.fault) (Node.readItems c (fuel + 1) done source) := by
  rw [Node.readItems]
  split
  · split
    · exact h.readItems _ _
    · split
      · exact (h.read _ _).error ‹_›
      · exact h.readItems _ _
  · simp
  · simp

theorem succ_readLooseItems (done : List Node) (source : Source) :
    OnlyFails (Error.IsMet c.fault) (Node.readLooseItems c (fuel + 1) done source) := by
  rw [Node.readLooseItems]
  split
  · split
    · exact h.readLooseItems _ _
    · split
      · exact (h.read _ _).error ‹_›
      · exact h.readLooseItems _ _
  · simp

theorem succ_readPart (source : Source) : OnlyFails (Error.IsMet c.fault) (Node.readPart c (fuel + 1) source) := by
  rw [Node.readPart]
  split
  · simp
  · exact h.read _ _

theorem succ_readValue (source : Source) : OnlyFails (Error.IsMet c.fault) (Node.readValue c (fuel + 1) source) := by
  rw [Node.readValue]
  split
  · exact h.readPart _
  · simp

theorem succ_readEntries (done : List (Node × Node)) (source : Source) :
    OnlyFails (Error.IsMet c.fault) (Node.readEntries c (fuel + 1) done source) := by
  rw [Node.readEntries]
  split
  · split
    · exact (h.readPart _).error ‹_›
    · split
      · exact (h.readValue _).error ‹_›
      · exact h.readEntries _ _
  · simp
  · simp

theorem succ_readPair (close : Token) (source : Source) :
    OnlyFails (Error.IsMet c.fault) (Node.readPair c close (fuel + 1) source) := by
  rw [Node.readPair]
  have hkey : OnlyFails (Error.IsMet c.fault)
      (if endsKey close source.tokens then .ok (empty, source) else Node.read c fuel .flow source) := by
    simp [h.read]
  split
  · exact hkey.error ‹_›
  · split
    · split
      · simp
      · simp [h.read]
    · simp

theorem succ_readFlowItems (first : Bool) (done : List Node) (source : Source) :
    OnlyFails (Error.IsMet c.fault) (Node.readFlowItems c (fuel + 1) first done source) := by
  rw [Node.readFlowItems]
  split
  · simp
  · split
    · simp
    · simp
    · split
      · exact (h.readPair _ _).error ‹_›
      · exact h.readFlowItems _ _ _
    · split
      · exact (h.read _ _).error ‹_›
      · exact h.readFlowItems _ _ _

theorem succ_readFlowEntries (first : Bool) (done : List (Node × Node)) (source : Source) :
    OnlyFails (Error.IsMet c.fault) (Node.readFlowEntries c (fuel + 1) first done source) := by
  rw [Node.readFlowEntries]
  split
  · simp
  · split
    · simp
    · simp
    · split
      · exact (h.readPair _ _).error ‹_›
      · exact h.readFlowEntries _ _ _
    · split
      · exact (h.read _ _).error ‹_›
      · exact h.readFlowEntries _ _ _

end ReadersOnlyFail

theorem readersOnlyFail (c : Setting) (fuel : Nat) : ReadersOnlyFail c fuel := by
  induction fuel with
  | zero => exact readersOnlyFail_zero
  | succ fuel ih =>
      exact ⟨ih.succ_read, ih.succ_readContent, ih.succ_readItems, ih.succ_readLooseItems, ih.succ_readPart,
        ih.succ_readValue, ih.succ_readEntries, ih.succ_readPair, ih.succ_readFlowItems, ih.succ_readFlowEntries⟩

@[simp] theorem onlyFails_readDirectives (last : Option Error) (versionSeen : Bool) (handles : List (String × String))
    (tokens : List Token) : OnlyFails (Error.IsMet last) (readDirectives versionSeen handles tokens) := by
  fun_induction readDirectives versionSeen handles tokens with
  | case1 | case3 => simp
  | case2 _ _ _ _ _ _ ih | case4 _ _ _ _ _ _ ih | case5 _ _ _ ih => exact ih
  | case6 => simp

@[simp] theorem onlyFails_finish (c : Setting) (node : Node) (tokens : List Token) :
    OnlyFails (Error.IsMet c.fault) (finish c node tokens) := by
  simp only [finish, onlyFails_bind, onlyFails_demand, onlyFails_ite, onlyFails_pure, onlyFails_readDirectives, true_and,
    implies_true]
  intro _ _ _ found _
  split <;> simp

@[simp] theorem onlyFails_readRoot (c : Setting) (tokens : List Token) :
    OnlyFails (Error.IsMet c.fault) (readRoot c tokens) := by
  simp [readRoot, (readersOnlyFail c _).read]

@[simp] theorem onlyFails_readMarked (last : Option Error) (tokens : List Token) :
    OnlyFails (Error.IsMet last) (readMarked last tokens) := by
  refine onlyFails_bind.mpr ⟨onlyFails_readDirectives last false [] tokens, ?_⟩
  rintro ⟨handles, opened⟩ _
  let c : Setting := ⟨handles, last⟩
  have hmarked : ∀ rest, OnlyFails (Error.IsMet c.fault) (do
      c.demand rest
      if isEmptyDocument rest then finish c empty rest else readRoot c rest) := by
    simp
  dsimp only
  split
  · exact hmarked _
  · exact onlyFails_misplaced c _

/-- Tokens that make no tree break a rule, or they break off with the fault of the text. -/
theorem onlyFails_ofScan (scan : Scan) : OnlyFails (Error.IsMet scan.fault) (ofScan scan) := by
  let c : Setting := ⟨commonHandles, scan.fault⟩
  unfold ofScan
  split
  · exact onlyFails_map.mpr (onlyFails_demand c [])
  · refine onlyFails_ite.mpr ⟨fun _ => ?_, fun _ => ?_⟩
    · exact onlyFails_map.mpr (onlyFails_readMarked scan.fault scan.tokens)
    · exact onlyFails_map.mpr (onlyFails_readRoot c scan.tokens)

end Node

/-! ## The scalars of a tree -/

mutual

/-- The scalars of a node that is built under a tag, each with its own tag.  A mapping may stand for a scalar itself; then
the text under its key `=` is read by the tag of the mapping. -/
def Node.scalarsAs (tag : Tag) : Node → List (Tag × String)
  | .scalar _ text => [(tag, text)]
  | .sequence _ items => Node.scalarsIn items
  | .mapping _ entries => (scalarUnder entries).toList.map (Prod.mk tag) ++ Node.scalarsOf entries

/-- The scalars of nodes. -/
def Node.scalarsIn : List Node → List (Tag × String)
  | [] => []
  | item :: rest => Node.scalarsAs item.tag item ++ Node.scalarsIn rest

/-- The scalars of the keys and values of a mapping. -/
def Node.scalarsOf : List (Node × Node) → List (Tag × String)
  | [] => []
  | (key, value) :: rest =>
    (Node.scalarsAs key.tag key ++ Node.scalarsAs value.tag value) ++ Node.scalarsOf rest

end

/-- The scalars of a node, each with its tag. -/
def Node.scalars (node : Node) : List (Tag × String) := node.scalarsAs node.tag

/-- Whether a scalar has a fault under its tag; a date or a moment is also at fault where a mapping stands for it. -/
def IsFaulty (tag : Tag) (text : String) (fault : DatumFault) : Prop :=
  readDatum tag text = .error (.datum fault) ∨ tag = .timestamp ∧ fault = .noText

/-- The tags of faulty scalars ask for a form: they are those of truth values, numbers and dates. -/
theorem IsFaulty.tag_mem {tag : Tag} {text : String} {fault : DatumFault} (h : IsFaulty tag text fault) :
    tag ∈ [Tag.bool, .int, .float, .timestamp] := by
  rcases h with hread | ⟨rfl, _⟩
  · cases tag with
    | bool | int | float | timestamp => simp
    | binary =>
        simp only [readDatum, readBinary] at hread
        split at hread
        · split at hread <;> cases hread
        · cases hread
    | null | text | sequence | mapping | set | pairs | merge | value | unknown => cases hread
  · simp

/-- Whether a fault is none of a scalar, or that of one of the given scalars. -/
def Error.IsOf (scalars : List (Tag × String)) (e : Error) : Prop :=
  ∀ fault, e = .datum fault → ∃ tag text, (tag, text) ∈ scalars ∧ IsFaulty tag text fault

@[simp] theorem Error.isOf_malformed (scalars : List (Tag × String)) (fault : Fault) :
    (Error.malformed fault).IsOf scalars := nofun

/-! ## From a tree to a value -/

namespace Build

variable {α β γ : Type} {scalars others : List (Tag × String)}

/-- Whether every fault in a part is none of a scalar, or that of one of the given scalars. -/
def FailsAt (scalars : List (Tag × String)) (part : Build α) : Prop :=
  OnlyFails (fun e => e.error.IsOf scalars) part

@[simp] theorem failsAt_ok (scalars : List (Tag × String)) (a : α) : FailsAt scalars (.ok a) :=
  onlyFails_ok _ a

@[simp] theorem failsAt_fault (scalars : List (Tag × String)) (fault : Fault) :
    FailsAt scalars (Build.fault fault : Build α) :=
  onlyFails_error.mpr (Error.isOf_malformed scalars fault)

@[simp] theorem failsAt_inside {part : Build α} : FailsAt scalars part.inside ↔ FailsAt scalars part :=
  onlyFails_mapError

@[simp] theorem failsAt_map {part : Build α} {f : α → β} : FailsAt scalars (part.map f) ↔ FailsAt scalars part :=
  onlyFails_map

/-- Only the scalars count that have a fault at all. -/
theorem FailsAt.imp {part : Build α} (h : FailsAt scalars part)
    (hfaulty : ∀ tag text fault, (tag, text) ∈ scalars → IsFaulty tag text fault → (tag, text) ∈ others) :
    FailsAt others part := by
  intro e he fault hfault
  obtain ⟨tag, text, hmem, hdatum⟩ := h e he fault hfault
  exact ⟨tag, text, hfaulty tag text fault hmem hdatum, hdatum⟩

theorem FailsAt.mono {part : Build α} (h : FailsAt scalars part) (hsubset : scalars ⊆ others) : FailsAt others part :=
  h.imp fun _ _ _ hmem _ => hsubset hmem

/-- Of two parts side by side one reports its fault. -/
theorem FailsAt.both {first : Build α} {second : Build β} {join : α → β → γ} (h : FailsAt scalars first)
    (h' : FailsAt scalars second) : FailsAt scalars (Build.both join first second) := by
  rcases first with e | a <;> rcases second with f | b
  · show OnlyFails _ (.error _)
    rw [onlyFails_error]
    split
    · exact h' f rfl
    · exact h e rfl
  · exact h.error rfl
  · exact h'.error rfl
  · exact failsAt_ok _ _

/-- The parts for the head and for the rest of a list, side by side. -/
theorem FailsAt.cons {first : Build α} {second : Build β} {join : α → β → γ} (h : FailsAt scalars first)
    (h' : FailsAt others second) : FailsAt (scalars ++ others) (Build.both join first second) :=
  (h.mono (List.subset_append_left _ _)).both (h'.mono (List.subset_append_right _ _))

/-- The same where the rest comes first. -/
theorem FailsAt.snoc {first : Build α} {second : Build β} {join : α → β → γ} (h : FailsAt others first)
    (h' : FailsAt scalars second) : FailsAt (scalars ++ others) (Build.both join first second) :=
  (h.mono (List.subset_append_right _ _)).both (h'.mono (List.subset_append_left _ _))

end Build

open Build

/-- A scalar that stands for nothing under its tag is at fault itself. -/
theorem failsAt_buildDatum (tag : Tag) (text : String) : FailsAt [(tag, text)] (buildDatum tag text) := by
  have hread : FailsAt [(tag, text)] ((readDatum tag text).mapError fun e => (⟨0, e⟩ : DeepError)) := by
    refine onlyFails_mapError.mpr fun e he fault hfault => ?_
    exact ⟨tag, text, List.mem_singleton_self _, .inl (hfault ▸ he)⟩
  unfold buildDatum
  split
  · simp
  · simp
  · simp
  · simp
  · exact hread

/-- A scalar that a mapping stands for is at fault itself. -/
theorem failsAt_buildStandIn (tag : Tag) (entries : List (Node × Node)) :
    FailsAt ((scalarUnder entries).toList.map (Prod.mk tag)) (buildStandIn tag entries) := by
  rw [buildStandIn]
  cases scalarUnder entries with
  | none => exact failsAt_fault _ _
  | some text =>
      refine onlyFails_ite.mpr ⟨fun htag => onlyFails_error.mpr ?_, fun _ => failsAt_buildDatum tag text⟩
      rintro _ ⟨⟩
      exact ⟨tag, text, List.mem_singleton_self _, .inr ⟨htag, rfl⟩⟩

theorem failsAt_asKey {scalars : List (Tag × String)} {built : Build Value} (h : FailsAt scalars built) :
    FailsAt scalars (asKey built) := by
  unfold asKey
  split
  · simp
  · simp
  · split
    · exact h.error rfl
    · simp

/-- A key that is built as a text has no faults of its own. -/
theorem Build.FailsAt.of_keyTag {α : Type} {key : Node} {part : Build α}
    (h : FailsAt (key.scalarsAs (keyTag key.tag)) part) : FailsAt (key.scalarsAs key.tag) part := by
  refine h.imp fun tag text fault hmem hfaulty => ?_
  have htag := hfaulty.tag_mem
  unfold keyTag at hmem
  split at hmem
  · have hne : tag ≠ .text := by
      rintro rfl
      simp at htag
    cases key with
    | scalar _ own =>
        rw [Node.scalarsAs, List.mem_singleton, Prod.mk.injEq] at hmem
        exact absurd hmem.1 hne
    | sequence _ items => exact hmem
    | mapping _ entries =>
        rw [Node.scalarsAs, List.mem_append] at hmem ⊢
        refine hmem.imp_left fun hown => ?_
        obtain ⟨own, _, hpair⟩ := List.mem_map.mp hown
        exact absurd (congrArg Prod.fst hpair).symm hne
  · exact hmem

mutual

/-- **A fault in the value of a node** is that of one of its scalars, or none of a scalar. -/
theorem failsAt_buildAs (tag : Tag) : (node : Node) → FailsAt (node.scalarsAs tag) (buildAs tag node)
  | .scalar _ text => by
      rw [buildAs, failsAt_map]
      exact failsAt_buildDatum tag text
  | .sequence _ items => by
      unfold buildAs
      split
      · exact failsAt_map.mpr (failsAt_inside.mpr (failsAt_buildItems items))
      · exact failsAt_map.mpr (failsAt_inside.mpr (failsAt_buildPairs items))
      · simp
      · simp
      · simp
  | .mapping _ entries => by
      have hmerged : FailsAt (Node.scalarsOf entries) (match mergeFault entries with
          | some fault => Build.fault fault
          | none => Build.both (· ++ ·) (buildMerged entries) (buildOwn entries)) := by
        split
        · simp
        · exact (failsAt_buildMerged entries).both (failsAt_buildOwn entries)
      have hown := hmerged.mono (List.subset_append_right ((scalarUnder entries).toList.map (Prod.mk tag)) _)
      unfold buildAs
      extract_lets merged
      change FailsAt _ merged at hown
      split
      · exact failsAt_map.mpr (failsAt_inside.mpr hown)
      · exact failsAt_map.mpr (failsAt_inside.mpr hown)
      · simp
      · simp
      · split
        · exact failsAt_map.mpr ((failsAt_buildStandIn tag entries).mono (List.subset_append_left _ _))
        · simp

/-- The same for the items of a sequence. -/
theorem failsAt_buildItems : (items : List Node) → FailsAt (Node.scalarsIn items) (buildItems items)
  | [] => by
      rw [buildItems]
      exact failsAt_ok _ _
  | item :: rest => by
      rw [buildItems, Node.scalarsIn]
      exact (failsAt_buildAs item.tag item).cons (failsAt_buildItems rest)

/-- The same for pairs. -/
theorem failsAt_buildPairs : (items : List Node) → FailsAt (Node.scalarsIn items) (buildPairs items)
  | [] => by
      rw [buildPairs]
      exact failsAt_ok _ _
  | item :: rest => by
      rw [buildPairs, Node.scalarsIn]
      exact (failsAt_buildPair item).cons (failsAt_buildPairs rest)

/-- The same for a pair. -/
theorem failsAt_buildPair : (item : Node) → FailsAt (item.scalarsAs item.tag) (buildPair item)
  | .mapping tag [(key, value)] => by
      have hpair : FailsAt (key.scalarsAs key.tag ++ value.scalarsAs value.tag)
          (Build.both (fun key value => Value.list [key, value]) (buildAs key.tag key) (buildAs value.tag value)) :=
        (failsAt_buildAs key.tag key).cons (failsAt_buildAs value.tag value)
      rw [buildPair, Node.scalarsAs, Node.scalarsOf, Node.scalarsOf, List.append_nil]
      exact hpair.mono (List.subset_append_right _ _)
  | .scalar _ _ | .sequence _ _ | .mapping _ [] | .mapping _ (_ :: _ :: _) => by simp [buildPair]

/-- The same for the entries that a mapping has of its own. -/
theorem failsAt_buildOwn : (entries : List (Node × Node)) → FailsAt (Node.scalarsOf entries) (buildOwn entries)
  | [] => by
      rw [buildOwn]
      exact failsAt_ok _ _
  | (key, value) :: rest => by
      have hkey := (failsAt_asKey (failsAt_buildAs (keyTag key.tag) key)).of_keyTag
      rw [buildOwn, Node.scalarsOf]
      split
      · exact (failsAt_buildOwn rest).mono (List.subset_append_right _ _)
      · exact (hkey.cons (failsAt_buildAs value.tag value)).cons (failsAt_buildOwn rest)

/-- The same for the entries that are merged into a mapping. -/
theorem failsAt_buildMerged : (entries : List (Node × Node)) → FailsAt (Node.scalarsOf entries) (buildMerged entries)
  | [] => by
      rw [buildMerged]
      exact failsAt_ok _ _
  | (key, value) :: rest => by
      have hvalue := (failsAt_buildMergedAt value).mono (List.subset_append_right (key.scalarsAs key.tag) _)
      rw [buildMerged, Node.scalarsOf]
      split
      · exact hvalue.cons (failsAt_buildMerged rest)
      · exact (failsAt_buildMerged rest).mono (List.subset_append_right _ _)

/-- The same for a node that is merged. -/
theorem failsAt_buildMergedAt : (node : Node) → FailsAt (node.scalarsAs node.tag) (buildMergedAt node)
  | .scalar _ _ => by
      rw [buildMergedAt]
      exact failsAt_fault _ _
  | .sequence _ items => by
      rw [buildMergedAt]
      exact failsAt_buildMergedIn items
  | .mapping _ entries => by
      rw [buildMergedAt, Node.scalarsAs]
      exact ((failsAt_buildMerged entries).both (failsAt_buildOwn entries)).mono (List.subset_append_right _ _)

/-- The same for nodes that are merged one after the other. -/
theorem failsAt_buildMergedIn : (items : List Node) → FailsAt (Node.scalarsIn items) (buildMergedIn items)
  | [] => by
      rw [buildMergedIn]
      exact failsAt_ok _ _
  | item :: rest => by
      rw [buildMergedIn, Node.scalarsIn]
      exact (failsAt_buildMergedIn rest).snoc (failsAt_buildMergedAt item)

end

/-! ## From a text to a value -/

/-- Whether a text has a scalar with the given fault: a code without a character or a version with too many digits, where
the tokens break off, or a truth value, a number or a date that is none. -/
def HasFaultyScalar (s : List Char) (fault : DatumFault) : Prop :=
  (fault.IsTextual ∧ (scan s).fault = some (.datum fault)) ∨
    ∃ node tag text, Node.ofScan (scan s) = .ok (some node) ∧ (tag, text) ∈ node.scalars ∧
      tag ∈ [Tag.bool, .int, .float, .timestamp] ∧ IsFaulty tag text fault

/-- **A text without a value** breaks a rule, writes what no value holds, or has a faulty scalar. -/
theorem hasFaultyScalar_of_read {s : List Char} {fault : DatumFault} (h : read s = .error (.datum fault)) :
    HasFaultyScalar s fault := by
  rw [read] at h
  split at h
  · rename_i e htree
    cases h
    have hlast : (scan s).fault = some (.datum fault) := by
      rcases Node.onlyFails_ofScan (scan s) _ htree with hlast | hother
      · exact hlast
      · exact absurd rfl (hother fault)
    exact .inl ⟨Error.isTextual_datum.mp (isTextual_of_scan hlast), hlast⟩
  · cases h
  · rename_i node htree
    have hbuild : OnlyFails (Error.IsOf node.scalars) ((build node).mapError DeepError.error) :=
      onlyFails_mapError.mpr (failsAt_buildAs node.tag node)
    obtain ⟨tag, text, hmem, hfaulty⟩ := hbuild _ h fault rfl
    exact .inr ⟨node, tag, text, htree, hmem, hfaulty.tag_mem, hfaulty⟩

end ApiTypes.Yaml
