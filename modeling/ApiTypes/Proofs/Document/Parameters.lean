/-
# The parameters of an operation

The list of parameters of an operation may hold anything.  An entry belongs to a location if it is a mapping that has a name
and names this location; all other entries are left out.  The entries that belong to the query, and those that belong to the
path, become the fields of one interface each: every entry is one field, in order, also when a name comes twice.

A field has the type of what stands under `schema`, whatever this is: a parameter without a schema, and one whose schema is
no mapping, have the type of a value of which nothing is known.

* `Parameter.Describes`: the field of an entry.
* `Parameter.forall₂_readFrom`: the parameters at a location are those of the entries that belong there.
* `Parameter.DeclaredFor`: what is declared for the entries of a location.
* `Operation.parameters_partition`: the declarations of an operation, among those of other operations.
-/
import ApiTypes.Proofs.Document.Usage
import ApiTypes.Proofs.Generation.Extension
import Mathlib.Data.List.Forall2

namespace ApiTypes

/-! ## Entries -/

/-- The value under a text key, or null when nothing stands there. -/
def Value.fieldOrNull (name : String) (value : Value) : Value :=
  (value.field? name).getD (.scalar .null)

/-- A text is found exactly when a text stands there. -/
theorem Value.bind_text?_eq_some_iff {found : Option Value} {text : String} :
    found.bind text? = some text ↔ found = some (.scalar (.text text)) := by
  constructor
  · intro h
    obtain ⟨value, rfl, hvalue⟩ := Option.bind_eq_some_iff.mp h
    cases value with
    | scalar s => cases s <;> cases hvalue; rfl
    | _ => cases hvalue
  · rintro rfl
    rfl

/-- The list of parameters of an operation, empty when none stands there. -/
def RawOperation.parameters (raw : RawOperation) : List Value :=
  ((Value.lookup "parameters" raw.entries).bind Value.items?).getD []

namespace Parameter

/-- Whether an entry of a list of parameters belongs to a location: a text stands under `name`, and the location stands
under `in`. -/
def belongsTo (location : String) (entry : Value) : Bool :=
  ((entry.field? "name").bind Value.text?).isSome && decide ((entry.field? "in").bind Value.text? = some location)

/-- No entry belongs to two locations. -/
theorem location_unique {first second : String} {entry : Value} (h : belongsTo first entry = true)
    (h' : belongsTo second entry = true) : first = second := by
  have hfirst := of_decide_eq_true (Bool.and_eq_true_iff.mp h).2
  have hsecond := of_decide_eq_true (Bool.and_eq_true_iff.mp h').2
  exact Option.some.inj (hfirst.symm.trans hsecond)

/-- The field of an entry: its name, the type of what stands under `schema`, the description if it is a text that is not
empty, and the mark that is asked for. -/
structure Describes (qualifier : String) (required : Value → Bool) (entry : Value) (member : Member) : Prop where
  name : entry.field? "name" = some (.scalar (.text member.name))
  type : member.type = (Schema.ofValue (entry.fieldOrNull "schema")).typeText qualifier
  description : member.description = ((entry.field? "description").bind Value.text?).filter (· ≠ "")
  required : member.required = required entry

/-! ## Reading an entry -/

/-- What a parameter tells of the entry from which it is read. -/
structure ReadFrom (entry : Value) (p : Parameter) : Prop where
  name : entry.field? "name" = some (.scalar (.text p.name))
  location : entry.field? "in" = some (.scalar (.text p.location))
  required : p.required = (entry.fieldOrNull "required").isTruthy
  schema : p.schema = (entry.field? "schema").bind Schema.ofMapping?
  description : p.description = ((entry.field? "description").bind Value.text?).filter (· ≠ "")

theorem readFrom_of_ofValue? {entry : Value} {p : Parameter} (h : ofValue? entry = some p) : ReadFrom entry p := by
  unfold ofValue? at h
  split at h
  · rename_i entries
    split at h
    · rename_i name location hname hlocation
      cases h
      refine ⟨hname, hlocation, ?_, rfl, Value.nonemptyText?_eq_filter "description" entries⟩
      rw [Value.fieldOrNull, Value.field?_mapping]
      cases Value.lookup "required" entries <;> rfl
    · cases h
  · cases h

/-- A parameter that is read belongs to its location and to no other. -/
theorem ReadFrom.belongsTo_eq {entry : Value} {p : Parameter} (h : ReadFrom entry p) (location : String) :
    belongsTo location entry = decide (p.location = location) := by
  rw [belongsTo, h.name, h.location]
  simp [Value.text?]

/-- An entry that belongs to a location is read. -/
theorem exists_ofValue?_of_belongsTo {entry : Value} {location : String} (h : belongsTo location entry = true) :
    ∃ p, ofValue? entry = some p := by
  obtain ⟨hnamed, hplaced⟩ := Bool.and_eq_true_iff.mp h
  obtain ⟨name, hname⟩ := Option.isSome_iff_exists.mp hnamed
  have hfound := Value.bind_text?_eq_some_iff.mp hname
  have hlocation := Value.bind_text?_eq_some_iff.mp (of_decide_eq_true hplaced)
  obtain ⟨entries, rfl⟩ := exists_mapping_of_field? hfound
  rw [Value.field?_mapping] at hfound hlocation
  rw [ofValue?, hfound, hlocation]
  exact ⟨_, rfl⟩

/-- **The parameters at a location** are read from the entries that belong there, one from each and in order. -/
theorem forall₂_readFrom (location : String) (items : List Value) :
    List.Forall₂ ReadFrom (items.filter (belongsTo location))
      ((items.filterMap ofValue?).filter fun p => p.location = location) := by
  induction items with
  | nil => exact .nil
  | cons entry rest ih =>
      -- whether an entry is read does not depend on the location; where it belongs does
      cases hread : ofValue? entry with
      | none =>
          have hnone : ¬ belongsTo location entry = true := by
            intro hbelongs
            obtain ⟨p, hp⟩ := exists_ofValue?_of_belongsTo hbelongs
            rw [hread] at hp
            cases hp
          rw [List.filter_cons_of_neg hnone, List.filterMap_cons_none hread]
          exact ih
      | some p =>
          have hp := readFrom_of_ofValue? hread
          have hbelongs := hp.belongsTo_eq location
          rw [List.filterMap_cons_some hread]
          by_cases hplace : p.location = location
          · rw [List.filter_cons_of_pos (by simpa [hbelongs] using hplace), List.filter_cons_of_pos (by simpa using hplace)]
            exact .cons hp ih
          · rw [List.filter_cons_of_neg (by simpa [hbelongs] using hplace), List.filter_cons_of_neg (by simpa using hplace)]
            exact ih

/-- The field of a parameter is the field of the entry from which it is read. -/
theorem ReadFrom.describes {entry : Value} {p : Parameter} (h : ReadFrom entry p) (qualifier : String)
    {required : Value → Bool} {mark : Bool} (hmark : mark = required entry) :
    Describes qualifier required entry (p.member qualifier mark) := by
  refine ⟨h.name, ?_, h.description, hmark⟩
  show p.typeText qualifier = _
  rw [typeText, h.schema, Value.fieldOrNull]
  cases entry.field? "schema" with
  | none => rfl
  | some schema => cases schema <;> rfl

/-! ## The interface of a location -/

/-- What is declared for the entries of a list that belong to a location: nothing if there are none, and otherwise one
interface, which has one field for each of them and in order. -/
inductive DeclaredFor (qualifier location candidate comment : String) (required : Value → Bool) (items : List Value) :
    List Declaration → Prop
  | nothing (hnone : ∀ entry ∈ items, belongsTo location entry = false) :
      DeclaredFor qualifier location candidate comment required items []
  | interface {used : List String} {name : String} {members : List Member}
      (hsome : ∃ entry ∈ items, belongsTo location entry = true) (hname : Registry.GivenFor used candidate name)
      (hfields : List.Forall₂ (Describes qualifier required) (items.filter (belongsTo location)) members) :
      DeclaredFor qualifier location candidate comment required items
        [⟨name, .interface, Member.interfaceBody members, comment⟩]

end Parameter

namespace RawOperation

variable (raw : RawOperation)

theorem parameters_read : raw.read.parameters = raw.parameters.filterMap Parameter.ofValue? := by
  rw [read, Operation.ofEntries, parameters]
  cases (Value.lookup "parameters" raw.entries).bind Value.items? <;> rfl

/-- The parameters of an operation at a location are read from the entries that belong there. -/
theorem forall₂_parametersAt (location : String) :
    List.Forall₂ Parameter.ReadFrom (raw.parameters.filter (Parameter.belongsTo location))
      (raw.read.parametersAt location) := by
  rw [Operation.parametersAt, parameters_read]
  exact Parameter.forall₂_readFrom location raw.parameters

/-- The interface that is drafted for a location is declared for the entries that belong there. -/
theorem declaredFor (qualifier location suffix content : String) {mark : Parameter → Bool} {required : Value → Bool}
    (hmark : ∀ entry p, Parameter.ReadFrom entry p → mark p = required entry) (taken : Registry) :
    Parameter.DeclaredFor qualifier location (raw.read.baseName ++ suffix) (raw.read.comment content) required
      raw.parameters
      (Registry.nameAll (raw.read.interfaceDraft suffix content
        ((raw.read.parametersAt location).map fun p => p.member qualifier (mark p))) taken).1 := by
  have hread := raw.forall₂_parametersAt location
  have hfields : List.Forall₂ (Parameter.Describes qualifier required)
      (raw.parameters.filter (Parameter.belongsTo location))
      ((raw.read.parametersAt location).map fun p => p.member qualifier (mark p)) := by
    rw [List.forall₂_map_right_iff]
    exact hread.imp fun entry p h => h.describes qualifier (hmark entry p h)
  -- from here on only the number of fields matters: there is an interface exactly when there are any
  generalize (raw.read.parametersAt location).map (fun p => p.member qualifier (mark p)) = members at hfields ⊢
  have hlength := hfields.length_eq
  rw [Operation.interfaceDraft]
  cases members with
  | nil =>
      refine .nothing fun entry hentry => ?_
      have hnone := List.filter_eq_nil_iff.mp (List.eq_nil_of_length_eq_zero hlength) entry hentry
      simpa using hnone
  | cons first rest =>
      have hsome : 0 < (raw.parameters.filter (Parameter.belongsTo location)).length := by
        rw [hlength, List.length_cons]
        exact Nat.succ_pos _
      exact .interface (List.length_filter_pos_iff.mp hsome) (Registry.freeName_givenFor taken _) hfields

end RawOperation

/-! ## The declarations of an operation -/

namespace Operation

variable (qualifier : String)

/-- What is declared for the body of a request: nothing if there is none, and otherwise one alias for its type. -/
inductive DeclaresBody (op : Operation) : List Declaration → Prop
  | nothing (hnone : op.body = none) : DeclaresBody op []
  | type {used : List String} {name : String} {schema : Schema} (hsome : op.body = some schema)
      (hname : Registry.GivenFor used (op.baseName ++ "RequestBody") name) :
      DeclaresBody op [⟨name, .alias, schema.typeText qualifier, op.comment "Request Body"⟩]

theorem declaresBody (op : Operation) (taken : Registry) :
    op.DeclaresBody qualifier (Registry.nameAll (op.bodyDraft qualifier) taken).1 := by
  cases hbody : op.body with
  | none =>
      rw [bodyDraft, hbody]
      exact .nothing hbody
  | some schema =>
      rw [bodyDraft, hbody]
      exact .type hbody (Registry.freeName_givenFor taken _)

/-- The declarations of the first operation are the query's, the path's and the body's; then come those of the others.  Each
part claims its names from the registry that the part before it left. -/
theorem exists_requestDeclarations_cons (op : Operation) (rest : List Operation) (taken : Registry) :
    ∃ afterQuery afterPath between : Registry,
      (requestDeclarations qualifier (op :: rest) taken).1 =
        (Registry.nameAll (op.queryDraft qualifier) taken).1 ++ (Registry.nameAll (op.pathDraft qualifier) afterQuery).1 ++
          (Registry.nameAll (op.bodyDraft qualifier) afterPath).1 ++ (requestDeclarations qualifier rest between).1 := by
  let afterQuery := (Registry.nameAll (op.queryDraft qualifier) taken).2
  let afterPath := (Registry.nameAll (op.pathDraft qualifier) afterQuery).2
  let between := (Registry.nameAll (op.bodyDraft qualifier) afterPath).2
  refine ⟨afterQuery, afterPath, between, ?_⟩
  have hdrafts : (op :: rest).flatMap (drafts qualifier) =
      op.queryDraft qualifier ++ (op.pathDraft qualifier ++ (op.bodyDraft qualifier ++ rest.flatMap (drafts qualifier))) := by
    simp only [List.flatMap_cons, drafts, List.append_assoc]
  rw [requestDeclarations, hdrafts, Registry.nameAll_append, Registry.nameAll_append, Registry.nameAll_append]
  simp only [List.append_assoc]
  rfl

/-- **Parameters.**  Among the declarations of several operations, those of one operation stand together: the interface for the
query, the interface for the path and the alias for the body, in this order and each only when there is something to
declare.  The fields of the two interfaces are the entries that belong to the location; a field of the query is required if
its entry says so, and all fields of the path are required.  No entry belongs to both. -/
theorem parameters_partition (earlier later : List RawOperation) (raw : RawOperation) (taken : Registry) :
    ∃ query path body after,
      (requestDeclarations qualifier ((earlier ++ raw :: later).map RawOperation.read) taken).1 =
        (requestDeclarations qualifier (earlier.map RawOperation.read) taken).1 ++ (query ++ path ++ body) ++ after ∧
      Parameter.DeclaredFor qualifier "query" (raw.read.baseName ++ "QueryParams") (raw.read.comment "Query Parameters")
        (fun entry => (entry.fieldOrNull "required").isTruthy) raw.parameters query ∧
      Parameter.DeclaredFor qualifier "path" (raw.read.baseName ++ "PathParams") (raw.read.comment "Path Parameters")
        (fun _ => true) raw.parameters path ∧
      raw.read.DeclaresBody qualifier body ∧
      (∃ between, after = (requestDeclarations qualifier (later.map RawOperation.read) between).1) ∧
      ∀ entry, ¬ (Parameter.belongsTo "query" entry = true ∧ Parameter.belongsTo "path" entry = true) := by
  rw [List.map_append, List.map_cons, requestDeclarations_append]
  generalize (requestDeclarations qualifier (earlier.map RawOperation.read) taken).2 = start
  obtain ⟨afterQuery, afterPath, between, hdeclared⟩ :=
    exists_requestDeclarations_cons qualifier raw.read (later.map RawOperation.read) start
  refine ⟨(Registry.nameAll (raw.read.queryDraft qualifier) start).1,
    (Registry.nameAll (raw.read.pathDraft qualifier) afterQuery).1,
    (Registry.nameAll (raw.read.bodyDraft qualifier) afterPath).1,
    (requestDeclarations qualifier (later.map RawOperation.read) between).1, ?_, ?_, ?_, ?_, ⟨between, rfl⟩, ?_⟩
  · simp only [hdeclared, List.append_assoc]
  · exact raw.declaredFor qualifier "query" "QueryParams" "Query Parameters" (fun _ _ h => h.required) start
  · exact raw.declaredFor qualifier "path" "PathParams" "Path Parameters" (fun _ _ _ => rfl) afterQuery
  · exact raw.read.declaresBody qualifier afterPath
  · rintro entry ⟨hquery, hpath⟩
    exact absurd (Parameter.location_unique hquery hpath) (by decide)

end Operation

end ApiTypes
