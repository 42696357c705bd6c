/-
# Every use of a schema is listed once

The bodies that an operation may refer to schemas from are its slots: one for each response and one for the request.  What
a slot points at can be seen in the raw document (`Value.pointer?`), without reading any schema.

The lines that are listed for a schema are those of the operations, one for each slot that points at the schema.  Different
schemas have different pointers, so that no slot is listed for two of them.

* `Facets.isReference_fragment`: a pointer is stronger than all other keywords.
* `RawOperation.read`, `Operation.ofPaths_eq_map`: the operations are those of the raw document.
* `Operation.endpointsFor_slots`: the lines for one schema, and how many there are for several schemas.
-/
import ApiTypes.Document.Usage
import ApiTypes.Proofs.Schema.Reading
import Mathlib.Algebra.GroupWithZero.Nat

namespace ApiTypes

/-! ## Slots of the raw document -/

/-- What a slot points at: the text under `$ref` in the schema of its JSON contents. -/
def Value.pointer? (slot : Value) : Option String :=
  ((((slot.field? "content").bind (field? "application/json")).bind (field? "schema")).bind (field? "$ref")).bind text?

/-- Whether a slot points at the named schema. -/
def Value.pointsTo (name : String) (slot : Value) : Bool :=
  slot.pointer? = some (Schema.pointerTo name)

/-- The entries of a method of a path. -/
structure RawOperation where
  path : String
  method : String
  entries : Entries

namespace RawOperation

/-- The slots of the responses. -/
def responses (raw : RawOperation) : List Value :=
  ((Value.lookup "responses" raw.entries).bind Value.entries?).elim [] fun responses => responses.map Prod.snd

/-- The slot of the request. -/
def body? (raw : RawOperation) : Option Value :=
  Value.lookup "requestBody" raw.entries

/-- All slots, in order. -/
def slots (raw : RawOperation) : List Value :=
  raw.responses ++ raw.body?.toList

/-- The summary, if a text stands there. -/
def summary (raw : RawOperation) : String :=
  ((Value.lookup "summary" raw.entries).bind Value.text?).getD ""

/-- How often an operation uses a named schema: once for each response that points at it, and once more if the request
does. -/
def uses (name : String) (raw : RawOperation) : Nat :=
  raw.responses.countP (Value.pointsTo name) + (raw.body?.any (Value.pointsTo name)).toNat

/-- The entry of a path that stands under the name of a method. -/
def ofMethod? (path : String) : Scalar × Value → Option RawOperation
  | (.text method, .mapping entries) => if Operation.isMethod method then some ⟨path, method, entries⟩ else none
  | _ => none

/-- The operations of one path. -/
def ofPath : Scalar × Value → List RawOperation
  | (.text path, .mapping methods) => methods.filterMap (ofMethod? path)
  | _ => []

/-- The operations of all paths, in path-then-method order. -/
def ofPaths (paths : Value) : List RawOperation :=
  (paths.entries?.getD []).flatMap ofPath

/-- The operation that is read. -/
def read (raw : RawOperation) : Operation :=
  Operation.ofEntries raw.path raw.method raw.entries

end RawOperation

/-! ## Reading pointers -/

/-- **A pointer wins.**  A schema is a reference exactly when its facets have a pointer, whatever else they say. -/
theorem Facets.isReference_fragment (f : Facets) (pointer : String) :
    f.fragment.isReference pointer = decide (f.pointer = some pointer) := by
  cases hpointer : f.pointer with
  | some target =>
      have hfragment : f.fragment = .reference target f.description := by rw [fragment, hpointer]
      simp [hfragment, Schema.isReference]
  | none =>
      refine fragment_cases (motive := fun schema => schema.isReference pointer = _) ?_ ?_ ?_ ?_ ?_ ?_ ?_ ?_
      · intro target htarget
        rw [hpointer] at htarget
        cases htarget
      all_goals intros; rfl

/-- Looking for a text that is not empty is looking for a text, and dropping the empty one. -/
theorem Value.nonemptyText?_eq_filter (name : String) (entries : Entries) :
    nonemptyText? name entries = ((lookup name entries).bind text?).filter (· ≠ "") := by
  rw [nonemptyText?]
  cases lookup name entries with
  | none => rfl
  | some value =>
      cases value with
      | scalar s =>
          cases s with
          | text found => by_cases h : found = "" <;> simp [text?, Option.filter, h]
          | _ => rfl
      | _ => rfl

namespace Schema

theorem toList_pointerTo (name : String) :
    (pointerTo name).toList = "#/components/schemas/".toList ++ name.toList :=
  String.toList_append

/-- No pointer to a schema is empty. -/
theorem pointerTo_ne_empty (name : String) : pointerTo name ≠ "" := by
  intro h
  have hlist : "#/components/schemas/".toList ++ name.toList = [] := by
    rw [← toList_pointerTo, h]
    rfl
  cases hlist

theorem pointerTo_injective : Function.Injective pointerTo := by
  intro first second h
  have hlist := congrArg String.toList h
  rw [toList_pointerTo, toList_pointerTo] at hlist
  exact String.toList_inj.mp (List.append_cancel_left hlist)

/-- The schema of a slot is a reference exactly when the slot points there. -/
theorem isReference_ofContent? (name : String) (slot : Value) :
    ((ofContent? slot).map (isReference (pointerTo name))).getD false = slot.pointsTo name := by
  rw [ofContent?, Value.pointsTo, Value.pointer?]
  cases ((slot.field? "content").bind (Value.field? "application/json")).bind (Value.field? "schema") with
  | none => rfl
  | some schema =>
      cases schema with
      | mapping entries =>
          have hpointer : (facets entries).pointer = some (pointerTo name) ↔
              (Value.lookup "$ref" entries).bind Value.text? = some (pointerTo name) := by
            show Value.nonemptyText? "$ref" entries = _ ↔ _
            rw [Value.nonemptyText?_eq_filter, Option.filter_eq_some_iff]
            exact and_iff_left (by simpa using pointerTo_ne_empty name)
          show (facets entries).fragment.isReference (pointerTo name) = _
          rw [Facets.isReference_fragment]
          exact decide_eq_decide.mpr hpointer
      | scalar _ => rfl
      | list _ => rfl
      | set _ => rfl

end Schema

/-! ## Operations -/

namespace Operation

theorem ofMethod?_eq_map (path : String) (entry : Scalar × Value) :
    ofMethod? path entry = (RawOperation.ofMethod? path entry).map RawOperation.read := by
  obtain ⟨key, value⟩ := entry
  cases key with
  | text method =>
      cases value with
      | mapping entries =>
          rw [ofMethod?, RawOperation.ofMethod?]
          split <;> rfl
      | _ => rfl
  | _ => rfl

theorem ofPath_eq_map (entry : Scalar × Value) : ofPath entry = (RawOperation.ofPath entry).map RawOperation.read := by
  obtain ⟨key, value⟩ := entry
  cases key with
  | text path =>
      cases value with
      | mapping methods =>
          rw [ofPath, RawOperation.ofPath, List.map_filterMap]
          exact List.filterMap_congr fun entry _ => ofMethod?_eq_map path entry
      | _ => rfl
  | _ => rfl

/-- The operations are those of the raw document, read one by one. -/
theorem ofPaths_eq_map (paths : Value) : ofPaths paths = (RawOperation.ofPaths paths).map RawOperation.read := by
  cases paths with
  | mapping entries =>
      rw [ofPaths, RawOperation.ofPaths, List.map_flatMap]
      exact List.flatMap_congr fun entry _ => ofPath_eq_map entry
  | scalar _ => rfl
  | list _ => rfl
  | set _ => rfl

/-- The bodies of an operation are the schemas of its slots. -/
theorem bodies_read (raw : RawOperation) : raw.read.bodies = raw.slots.filterMap Schema.ofContent? := by
  have hresponses : raw.read.responses = raw.responses.filterMap Schema.ofContent? := by
    rw [RawOperation.read, ofEntries, RawOperation.responses]
    cases (Value.lookup "responses" raw.entries).bind Value.entries? with
    | none => rfl
    | some entries => rw [Option.elim_some, Option.elim_some, List.filterMap_map]; rfl
  have hbody : raw.read.body.toList = raw.body?.toList.filterMap Schema.ofContent? := by
    rw [RawOperation.read, ofEntries, RawOperation.body?]
    cases Value.lookup "requestBody" raw.entries with
    | none => rfl
    | some value => cases hcontent : Schema.ofContent? value <;> simp [hcontent]
  rw [bodies, RawOperation.slots, List.filterMap_append, hresponses, hbody]

/-- The line of an operation shows its summary, or nothing in place of it. -/
theorem endpoint_read (raw : RawOperation) :
    raw.read.endpoint = Text.upper raw.method ++ " " ++ raw.path ++ " - " ++ raw.summary := by
  have hsummary : raw.read.summary.getD "" = raw.summary := by
    show (Value.nonemptyText? "summary" raw.entries).getD "" = _
    rw [Value.nonemptyText?_eq_filter, RawOperation.summary]
    cases (Value.lookup "summary" raw.entries).bind Value.text? with
    | none => rfl
    | some text => by_cases h : text = "" <;> simp [Option.filter, h]
  rw [endpoint, hsummary]
  rfl

/-- The uses of an operation are its slots that point at the schema. -/
theorem uses_eq_countP (name : String) (raw : RawOperation) :
    raw.uses name = raw.slots.countP (Value.pointsTo name) := by
  rw [RawOperation.uses, RawOperation.slots, List.countP_append]
  cases raw.body? with
  | none => rfl
  | some body => cases h : body.pointsTo name <;> simp [h]

/-- The line of an operation is listed once for each use. -/
theorem usesOf_read (name : String) (raw : RawOperation) :
    raw.read.usesOf name =
      List.replicate (raw.uses name) (Text.upper raw.method ++ " " ++ raw.path ++ " - " ++ raw.summary) := by
  have hcount : (raw.read.bodies.filter (Schema.isReference (Schema.pointerTo name))).length = raw.uses name := by
    rw [← List.countP_eq_length_filter, bodies_read, List.countP_filterMap, uses_eq_countP]
    apply List.countP_congr
    intro slot _
    rw [Schema.isReference_ofContent?]
  rw [usesOf, List.map_const', hcount, endpoint_read]

end Operation

/-! ## Several schemas -/

namespace Value

/-- A slot points at one schema at most. -/
theorem pointsTo_unique {first second : String} {slot : Value} (hfirst : slot.pointsTo first = true)
    (hsecond : slot.pointsTo second = true) : first = second := by
  have hpointer : some (Schema.pointerTo first) = some (Schema.pointerTo second) :=
    (of_decide_eq_true hfirst).symm.trans (of_decide_eq_true hsecond)
  exact Schema.pointerTo_injective (Option.some_inj.mp hpointer)

/-- The slots that point at a schema or at one of others are counted apart, if it is none of the others. -/
theorem countP_pointsTo_cons {name : String} {names : List String} (h : name ∉ names) (slots : List Value) :
    slots.countP (fun slot => (name :: names).any slot.pointsTo) =
      slots.countP (pointsTo name) + slots.countP fun slot => names.any slot.pointsTo := by
  induction slots with
  | nil => rfl
  | cons slot rest ih =>
      rw [List.countP_cons, List.countP_cons, List.countP_cons, ih, List.any_cons]
      cases hname : slot.pointsTo name with
      | false =>
          rw [Bool.false_or, if_neg Bool.false_ne_true]
          omega
      | true =>
          have hothers : names.any slot.pointsTo = false := by
            rw [List.any_eq_false]
            intro other hother hpoints
            exact h (pointsTo_unique hname hpoints ▸ hother)
          rw [hothers, Bool.true_or, if_pos rfl, if_neg Bool.false_ne_true]
          omega

/-- Of schemas with different names, no slot is counted for two. -/
theorem sum_countP_pointsTo {names : List String} (h : names.Nodup) (slots : List Value) :
    (names.map fun name => slots.countP (pointsTo name)).sum =
      slots.countP fun slot => names.any slot.pointsTo := by
  induction names with
  | nil => simp
  | cons name rest ih =>
      obtain ⟨hname, hrest⟩ := List.nodup_cons.mp h
      rw [List.map_cons, List.sum_cons, ih hrest, countP_pointsTo_cons hname]

end Value

namespace Operation

/-- **Uses of schemas.**  The lines that are listed for a schema are those of the operations, in order, each as often as the
operation has slots that point at the schema.  For schemas with different names there are as many lines as there are slots
that point at one of them. -/
theorem endpointsFor_slots (paths : Value) :
    (∀ name, endpointsFor name (ofPaths paths) = (RawOperation.ofPaths paths).flatMap fun raw =>
      List.replicate (raw.uses name) (Text.upper raw.method ++ " " ++ raw.path ++ " - " ++ raw.summary)) ∧
    ∀ names : List String, names.Nodup →
      (names.map fun name => (endpointsFor name (ofPaths paths)).length).sum =
        ((RawOperation.ofPaths paths).flatMap RawOperation.slots).countP fun slot =>
          ∃ name ∈ names, slot.pointer? = some (Schema.pointerTo name) := by
  have hlines : ∀ name, endpointsFor name (ofPaths paths) = (RawOperation.ofPaths paths).flatMap fun raw =>
      List.replicate (raw.uses name) (Text.upper raw.method ++ " " ++ raw.path ++ " - " ++ raw.summary) := by
    intro name
    rw [endpointsFor, ofPaths_eq_map, List.flatMap_map]
    exact List.flatMap_congr fun raw _ => usesOf_read name raw
  refine ⟨hlines, fun names hnames => ?_⟩
  have hlength : ∀ name, (endpointsFor name (ofPaths paths)).length =
      ((RawOperation.ofPaths paths).flatMap RawOperation.slots).countP (Value.pointsTo name) := by
    intro name
    rw [hlines, List.length_flatMap, List.countP_flatMap]
    simp only [List.length_replicate, uses_eq_countP, Function.comp_def]
  simp only [hlength, Value.sum_countP_pointsTo hnames]
  apply List.countP_congr
  intro slot _
  simp [Value.pointsTo]

/-- Two responses and a request point at `User`, one response at `Users`; a list of users and a body in another format
count for none. -/
theorem endpointsFor_slots_user :
    let reference := fun name => Value.mapping [(.text "$ref", .scalar (.text (Schema.pointerTo name)))]
    let body := fun (format : String) (schema : Value) => Value.mapping
      [(.text "content", .mapping [(.text format, .mapping [(.text "schema", schema)])])]
    let json := body "application/json"
    let paths := Value.mapping [(.text "/users", .mapping [(.text "Put", .mapping
      [(.text "responses", .mapping [(.text "200", json (reference "User")), (.int 201, json (reference "Users")),
        (.text "202", json (.mapping [(.text "type", .scalar (.text "array")), (.text "items", reference "User")])),
        (.text "400", body "text/xml" (reference "User")), (.text "default", json (reference "User"))]),
        (.text "requestBody", json (reference "User"))])])]
    endpointsFor "User" (ofPaths paths) = ["PUT /users - ", "PUT /users - ", "PUT /users - "] ∧
      ["User", "Users"].Nodup ∧
      (["User", "Users"].map fun name => (endpointsFor name (ofPaths paths)).length).sum = 4 := by
  intro reference body json paths
  have hnames : ["User", "Users"].Nodup := by decide
  obtain ⟨hlines, hsum⟩ := endpointsFor_slots paths
  refine ⟨(hlines "User").trans ?_, hnames, (hsum ["User", "Users"] hnames).trans ?_⟩
  · decide +kernel
  · decide +kernel

end Operation

end ApiTypes
