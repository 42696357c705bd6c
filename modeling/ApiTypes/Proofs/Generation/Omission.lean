/-
# Parts of a document that do not matter

Much of what a document may hold is not looked at: other formats than JSON, parameters in headers, keys that no reader asks
for.  Whatever of it is left out, nothing changes in the module that is made.

`Document.Trims` says which parts may be left out, level by level; each of them may be left out or stay.  What the readers
find on both sides is the same, except that an operation may lose parameters that are not declared
(`Operation.declared`), and those are not used.

* `Omits.filterMap_eq`, `Omits.flatMap_eq`: what is read item by item does not depend on idle items.
* `OmitsEntries.field?_congr`: nor does what is read under a key.
* `Operation.declared_ofDocument`: the operations, up to parameters that are not declared.
* `Generated.ofValue_eq_of_trims`: what is made of a document.
-/
import ApiTypes.Generation.Basic
import Mathlib.Data.List.Basic

namespace ApiTypes

/-! ## Leaving out items -/

/-- Some idle items of a list are left out, and the other ones are kept, possibly with something left out inside them. -/
inductive Omits {α : Type} (idle : α → Prop) (inside : α → α → Prop) : List α → List α → Prop
  | nil : Omits idle inside [] []
  | drop {x : α} {xs ys : List α} (hidle : idle x) (rest : Omits idle inside xs ys) : Omits idle inside (x :: xs) ys
  | keep {x y : α} {xs ys : List α} (hinside : inside x y) (rest : Omits idle inside xs ys) :
      Omits idle inside (x :: xs) (y :: ys)

namespace Omits

variable {α β : Type} {idle : α → Prop} {inside : α → α → Prop} {xs ys : List α}

/-- What is read item by item does not depend on items from which nothing is read. -/
theorem filterMap_eq (h : Omits idle inside xs ys) {f : α → Option β} (hidle : ∀ x, idle x → f x = none)
    (hinside : ∀ x y, inside x y → f x = f y) : xs.filterMap f = ys.filterMap f := by
  induction h with
  | nil => rfl
  | drop hx _ ih => rw [List.filterMap_cons_none (hidle _ hx), ih]
  | keep hxy _ ih => rw [List.filterMap_cons, List.filterMap_cons, hinside _ _ hxy, ih]

/-- The same when an item may give several results. -/
theorem flatMap_eq (h : Omits idle inside xs ys) {f : α → List β} (hidle : ∀ x, idle x → f x = [])
    (hinside : ∀ x y, inside x y → f x = f y) : xs.flatMap f = ys.flatMap f := by
  induction h with
  | nil => rfl
  | drop hx _ ih => rw [List.flatMap_cons, hidle _ hx, List.nil_append, ih]
  | keep hxy _ ih => rw [List.flatMap_cons, List.flatMap_cons, hinside _ _ hxy, ih]

end Omits

/-- In a mapping, idle entries are left out, and the values of other ones may have something left out; a value that is no
mapping stays. -/
inductive OmitsEntries (idle : Scalar × Value → Prop) (inside : Scalar → Value → Value → Prop) : Value → Value → Prop
  | mapping {entries others : Entries} (h : Omits idle (fun e f => e.1 = f.1 ∧ inside e.1 e.2 f.2) entries others) :
      OmitsEntries idle inside (.mapping entries) (.mapping others)
  | same (value : Value) : OmitsEntries idle inside value value

section Keys

variable {β : Type} {idle : Scalar × Value → Prop} {inside : Scalar → Value → Value → Prop}

/-- Under a key that is not idle the same is found, or something that had parts left out. -/
theorem Omits.lookup_congr {entries others : Entries}
    (h : Omits idle (fun e f => e.1 = f.1 ∧ inside e.1 e.2 f.2) entries others) (name : String)
    (hname : ∀ value, ¬ idle (.text name, value)) {g : Option Value → β}
    (hg : ∀ v w, inside (.text name) v w → g (some v) = g (some w)) :
    g (Value.lookup name entries) = g (Value.lookup name others) := by
  induction h with
  | nil => rfl
  | @drop entry _ _ hidle _ ih =>
      obtain ⟨key, value⟩ := entry
      have hkey : key ≠ .text name := by
        rintro rfl
        exact hname value hidle
      rw [Value.lookup, if_neg hkey, ih]
  | @keep entry other _ _ hinside _ ih =>
      obtain ⟨key, value⟩ := entry
      obtain ⟨key', value'⟩ := other
      obtain ⟨rfl, hvalue⟩ := hinside
      rw [Value.lookup, Value.lookup]
      by_cases hkey : key = .text name
      · rw [if_pos hkey, if_pos hkey]
        exact hg value value' (hkey ▸ hvalue)
      · rw [if_neg hkey, if_neg hkey, ih]

/-- **Keys.**  What is read under a key that is not idle does not depend on what was left out. -/
theorem OmitsEntries.field?_congr {v w : Value} (h : OmitsEntries idle inside v w) (name : String)
    (hname : ∀ value, ¬ idle (.text name, value)) {g : Option Value → β}
    (hg : ∀ v w, inside (.text name) v w → g (some v) = g (some w)) : g (v.field? name) = g (w.field? name) := by
  cases h with
  | mapping h => exact h.lookup_congr name hname hg
  | same _ => rfl

end Keys

/-! ## What may be left out -/

/-- In the contents of a body: all formats but JSON. -/
def TrimsContent : Value → Value → Prop :=
  OmitsEntries (fun entry => entry.1 ≠ .text "application/json") fun _ => Eq

/-- In the body of a request or a response: parts of its contents. -/
def TrimsBody : Value → Value → Prop :=
  OmitsEntries (fun _ => False) fun
    | .text "content" => TrimsContent
    | _ => Eq

/-- In the responses of an operation: parts of their bodies. -/
def TrimsResponses : Value → Value → Prop :=
  OmitsEntries (fun _ => False) fun _ => TrimsBody

/-- A parameter that is not declared: it is no mapping, it has no text as its name or its location, or its location is
neither the query nor the path. -/
def IsIdleParameter (value : Value) : Prop :=
  value.entries? = none ∨ (value.field? "name").bind Value.text? = none ∨ (value.field? "in").bind Value.text? = none ∨
    ∃ location, (value.field? "in").bind Value.text? = some location ∧ location ≠ "query" ∧ location ≠ "path"

/-- In the parameters of an operation: those that are not declared. -/
inductive TrimsParameters : Value → Value → Prop
  | list {items others : List Value} (h : Omits IsIdleParameter Eq items others) :
      TrimsParameters (.list items) (.list others)
  | same (value : Value) : TrimsParameters value value

/-- The keys of an operation that are looked at. -/
def operationKeys : List Scalar :=
  [.text "summary", .text "parameters", .text "requestBody", .text "responses"]

/-- In an operation: all other keys, parameters that are not declared, and parts of the bodies. -/
def TrimsOperation : Value → Value → Prop :=
  OmitsEntries (fun entry => entry.1 ∉ operationKeys) fun
    | .text "parameters" => TrimsParameters
    | .text "requestBody" => TrimsBody
    | .text "responses" => TrimsResponses
    | _ => Eq

/-- An entry under a path that makes no operation: its key names no method, or its value is no mapping. -/
def IsIdleMethod (entry : Scalar × Value) : Prop :=
  (∀ method, entry.1 = .text method → Operation.isMethod method = false) ∨ entry.2.entries? = none

/-- Under a path: the entries that make no operation, and parts of the operations. -/
def TrimsPathItem : Value → Value → Prop :=
  OmitsEntries IsIdleMethod fun _ => TrimsOperation

/-- An entry of the paths that is no path: its key is no text, or its value is no mapping. -/
def IsIdlePath (entry : Scalar × Value) : Prop :=
  (∀ path, entry.1 ≠ .text path) ∨ entry.2.entries? = none

/-- In the paths of a document: the entries that are no paths, and parts of the paths. -/
def TrimsPaths : Value → Value → Prop :=
  OmitsEntries IsIdlePath fun _ => TrimsPathItem

/-- In the components of a document: all but the schemas. -/
def TrimsComponents : Value → Value → Prop :=
  OmitsEntries (fun entry => entry.1 ≠ .text "schemas") fun _ => Eq

/-- **What may be left out of a document**: all but components and paths, and parts of these. -/
def Document.Trims : Value → Value → Prop :=
  OmitsEntries (fun entry => entry.1 ≠ .text "components" ∧ entry.1 ≠ .text "paths") fun
    | .text "components" => TrimsComponents
    | .text "paths" => TrimsPaths
    | _ => Eq

/-! ## Bodies and parameters -/

section Parts

variable {v w : Value}

theorem Schema.ofContent?_eq_of_trims (h : TrimsBody v w) : ofContent? v = ofContent? w := by
  apply h.field?_congr "content" (fun _ => id)
    (g := fun content => ((content.bind (Value.field? "application/json")).bind (Value.field? "schema")).bind ofMapping?)
  intro content other hcontent
  have hmedia : content.field? "application/json" = other.field? "application/json" :=
    OmitsEntries.field?_congr (show TrimsContent content other from hcontent) "application/json" (by simp) (g := id)
      fun _ _ => congrArg some
  simp only [Option.bind_some, hmedia]

/-- The schemas of all responses are the same. -/
theorem Schema.responses_eq_of_trims (h : TrimsResponses v w) :
    v.entries?.elim [] (fun responses => responses.filterMap fun response => ofContent? response.2) =
      w.entries?.elim [] fun responses => responses.filterMap fun response => ofContent? response.2 := by
  cases h with
  | mapping h =>
      apply h.filterMap_eq (fun _ => False.elim)
      rintro response other ⟨_, hbody⟩
      exact ofContent?_eq_of_trims hbody
  | same _ => rfl

namespace Parameter

/-- Whether a parameter is declared. -/
def isDeclared (p : Parameter) : Bool :=
  p.location = "query" ∨ p.location = "path"

/-- From an idle parameter no declared one is read. -/
theorem filter_ofValue?_of_idle {value : Value} (h : IsIdleParameter value) :
    (ofValue? value).filter isDeclared = none := by
  rw [Option.filter_eq_none_iff]
  intro p hp hdeclared
  cases value with
  | mapping entries =>
      rw [ofValue?] at hp
      split at hp
      · rename_i name location hname hlocation
        cases hp
        rcases h with h | h | h | ⟨other, h, hquery, hpath⟩
        · cases h
        · simp [Value.field?, hname, Value.text?] at h
        · simp [Value.field?, hlocation, Value.text?] at h
        · have hother : location = other := by simpa [Value.field?, hlocation, Value.text?] using h
          subst hother
          simp [isDeclared, hquery, hpath] at hdeclared
      · cases hp
  | scalar _ => cases hp
  | list _ => cases hp
  | set _ => cases hp

/-- The declared parameters are the same. -/
theorem declared_eq_of_trims (h : TrimsParameters v w) :
    (v.items?.elim [] fun items => items.filterMap ofValue?).filter isDeclared =
      (w.items?.elim [] fun items => items.filterMap ofValue?).filter isDeclared := by
  cases h with
  | list h =>
      simp only [Value.items?, Option.elim_some, List.filter_filterMap]
      exact h.filterMap_eq (fun _ => filter_ofValue?_of_idle) fun _ _ heq => by rw [heq]
  | same _ => rfl

end Parameter

end Parts

/-! ## Operations -/

namespace Operation

/-- An operation with those parameters only that are declared. -/
def declared (op : Operation) : Operation :=
  { op with parameters := op.parameters.filter Parameter.isDeclared }

theorem parametersAt_declared (op : Operation) {location : String} (h : location = "query" ∨ location = "path") :
    op.declared.parametersAt location = op.parametersAt location := by
  rw [parametersAt, parametersAt, declared, List.filter_filter]
  apply List.filter_congr
  intro p _
  by_cases hp : p.location = location
  · have hdeclared : p.isDeclared = true := by simpa [Parameter.isDeclared, hp] using h
    simp [hp, hdeclared]
  · simp [hp]

/-- Only declared parameters are drafted. -/
theorem drafts_declared (qualifier : String) (op : Operation) : op.declared.drafts qualifier = op.drafts qualifier := by
  have hquery := op.parametersAt_declared (.inl rfl : "query" = "query" ∨ "query" = "path")
  have hpath := op.parametersAt_declared (.inr rfl : "path" = "query" ∨ "path" = "path")
  rw [drafts, drafts, queryDraft, pathDraft, hquery, hpath]
  rfl

/-- Parameters have no part in the uses of schemas. -/
theorem endpointsFor_map_declared (name : String) (operations : List Operation) :
    endpointsFor name (operations.map declared) = endpointsFor name operations := by
  rw [endpointsFor, List.flatMap_map]
  rfl

/-- What is read from the entries of an operation, up to parameters that are not declared. -/
theorem declared_ofEntries {entries others : Entries} (path method : String)
    (h : TrimsOperation (.mapping entries) (.mapping others)) :
    (ofEntries path method entries).declared = (ofEntries path method others).declared := by
  have hfound : Value.lookup "summary" entries = Value.lookup "summary" others :=
    h.field?_congr "summary" (by simp [operationKeys]) (g := id) fun _ _ => congrArg some
  have hsummary : Value.nonemptyText? "summary" entries = Value.nonemptyText? "summary" others := by
    unfold Value.nonemptyText?
    rw [hfound]
  have hparameters : (ofEntries path method entries).parameters.filter Parameter.isDeclared =
      (ofEntries path method others).parameters.filter Parameter.isDeclared :=
    h.field?_congr "parameters" (by simp [operationKeys])
      (g := fun found => ((found.bind Value.items?).elim [] fun items =>
        items.filterMap Parameter.ofValue?).filter Parameter.isDeclared)
      fun _ _ hvalues => Parameter.declared_eq_of_trims hvalues
  have hbody : (ofEntries path method entries).body = (ofEntries path method others).body :=
    h.field?_congr "requestBody" (by simp [operationKeys]) (g := fun found => found.bind Schema.ofContent?)
      fun _ _ hvalues => Schema.ofContent?_eq_of_trims hvalues
  have hresponses : (ofEntries path method entries).responses = (ofEntries path method others).responses :=
    h.field?_congr "responses" (by simp [operationKeys])
      (g := fun found => (found.bind Value.entries?).elim [] fun (responses : Entries) =>
        responses.filterMap fun (response : Scalar × Value) => Schema.ofContent? response.2)
      fun _ _ hvalues => Schema.responses_eq_of_trims hvalues
  rw [declared, declared, hparameters, hbody, hresponses]
  simp only [ofEntries, hsummary]

/-- The entries under a path that make operations, and the operations that they make. -/
theorem declared_ofMethod? {v w : Value} (path : String) (key : Scalar) (h : TrimsOperation v w) :
    (ofMethod? path (key, v)).map declared = (ofMethod? path (key, w)).map declared := by
  cases h with
  | same _ => rfl
  | @mapping entries others h =>
      cases key with
      | text method =>
          by_cases hmethod : isMethod method = true
          · have hsame := declared_ofEntries path method (.mapping h)
            simp only [ofMethod?, if_pos hmethod, Option.map_some, hsame]
          · simp only [ofMethod?, if_neg hmethod]
      | _ => rfl

theorem ofMethod?_of_idle {entry : Scalar × Value} (path : String) (h : IsIdleMethod entry) :
    ofMethod? path entry = none := by
  unfold ofMethod?
  split
  · rename_i method entries
    rcases h with h | h
    · rw [if_neg (by simpa using h method rfl)]
    · cases h
  · rfl

/-- The operations of a path. -/
theorem declared_ofPath {v w : Value} (key : Scalar) (h : TrimsPathItem v w) :
    (ofPath (key, v)).map declared = (ofPath (key, w)).map declared := by
  cases h with
  | same _ => rfl
  | @mapping entries others h =>
      cases key with
      | text path =>
          simp only [ofPath, List.map_filterMap]
          apply h.filterMap_eq
          · intro entry hidle
            rw [ofMethod?_of_idle path hidle, Option.map_none]
          · rintro ⟨method, v⟩ ⟨_, w⟩ ⟨rfl, hinside⟩
            exact declared_ofMethod? path method hinside
      | _ => rfl

theorem ofPath_of_idle {entry : Scalar × Value} (h : IsIdlePath entry) : ofPath entry = [] := by
  unfold ofPath
  split
  · rename_i path entries
    rcases h with h | h
    · exact absurd rfl (h path)
    · cases h
  · rfl

theorem declared_ofPaths {v w : Value} (h : TrimsPaths v w) :
    (ofPaths v).map declared = (ofPaths w).map declared := by
  cases h with
  | mapping h =>
      simp only [ofPaths, List.map_flatMap]
      apply h.flatMap_eq
      · intro entry hidle
        rw [ofPath_of_idle hidle, List.map_nil]
      · rintro ⟨path, v⟩ ⟨_, w⟩ ⟨rfl, hinside⟩
        exact declared_ofPath path hinside
  | same _ => rfl

/-- **Operations** of a document are the same, up to parameters that are not declared. -/
theorem declared_ofDocument {v w : Value} (h : Document.Trims v w) :
    (ofDocument v).map declared = (ofDocument w).map declared :=
  h.field?_congr "paths" (by simp) (g := fun found => (found.elim [] ofPaths).map declared)
    fun _ _ hpaths => declared_ofPaths hpaths

end Operation

/-! ## Documents -/

namespace Document

/-- A document with those parameters only that are declared. -/
def declared (doc : Document) : Document :=
  { doc with operations := doc.operations.map Operation.declared }

theorem schemasIn_eq_of_trims {v w : Value} (h : Trims v w) : schemasIn v = schemasIn w := by
  apply h.field?_congr "components" (by simp)
    (g := fun found => (found.bind (Value.field? "schemas")).bind Value.entries?)
  intro components others hcomponents
  have hschemas : components.field? "schemas" = others.field? "schemas" :=
    OmitsEntries.field?_congr (show TrimsComponents components others from hcomponents) "schemas" (by simp) (g := id)
      fun _ _ => congrArg some
  simp only [Option.bind_some, hschemas]

/-- The document that is read is the same, up to parameters that are not declared. -/
theorem declared_ofValue {v w : Value} (h : Trims v w) : (ofValue v).map declared = (ofValue w).map declared := by
  rw [ofValue, ofValue, schemasIn_eq_of_trims h]
  cases schemasIn w with
  | none => rfl
  | some schemas =>
      have hoperations := Operation.declared_ofDocument h
      simp only [Except.map, declared, hoperations]

end Document

namespace Generated

/-- Nothing is made of parameters that are not declared. -/
theorem ofDocument_declared (qualifier : String) (doc : Document) :
    ofDocument qualifier doc.declared = ofDocument qualifier doc := by
  have husage : withUsage (doc.operations.map Operation.declared) = withUsage doc.operations := by
    funext name d
    rw [withUsage, withUsage, Operation.endpointsFor_map_declared]
  have hschemas : schemaDeclarations qualifier doc.declared = schemaDeclarations qualifier doc := by
    simp only [schemaDeclarations, enumDeclarations, typeDeclarations, Document.declared, husage]
  have hdrafts : (doc.operations.map Operation.declared).flatMap (Operation.drafts qualifier) =
      doc.operations.flatMap (Operation.drafts qualifier) := by
    rw [List.flatMap_map]
    exact List.flatMap_congr fun op _ => op.drafts_declared qualifier
  have hoperations : doc.declared.operations = doc.operations.map Operation.declared := rfl
  have hskipped : skippedNames doc.declared = skippedNames doc := rfl
  simp only [ofDocument, Operation.requestDeclarations, hschemas, hoperations, hdrafts, hskipped]

/-- **Ignored parts.**  Whatever is left out of a document of the parts that may be left out, the same is made of it: the
same declarations with the same comments and the same warnings, or the same error. -/
theorem ofValue_eq_of_trims {v w : Value} (h : Document.Trims v w) (qualifier : String) :
    ofValue qualifier v = ofValue qualifier w := by
  have hread : ∀ value, ofValue qualifier value =
      ((Document.ofValue value).map Document.declared).map (ofDocument qualifier) := by
    intro value
    rw [ofValue]
    cases Document.ofValue value with
    | error e => rfl
    | ok doc => exact congrArg Except.ok (ofDocument_declared qualifier doc).symm
  rw [hread, hread, Document.declared_ofValue h]

/-- A body with the given contents, each of them a reference to the schema `User`. -/
def userBody (formats : List String) : Value :=
  .mapping [(.text "content", .mapping (formats.map fun format =>
    (.text format, .mapping [(.text "schema", .mapping [(.text "$ref", .scalar (.text "#/components/schemas/User"))])])))]

/-- A document with an operation that takes a parameter and a body, and with further parts at every level. -/
def userDocument (further : Entries) (components paths entries fields : Entries) (parameters : List Value)
    (formats : List String) : Value :=
  .mapping (further ++ [
    (.text "components", .mapping (components ++ [(.text "schemas", .mapping [(.text "User", .mapping
      [(.text "properties", .mapping [])])])])),
    (.text "paths", .mapping (paths ++ [(.text "/users", .mapping (entries ++ [(.text "Post", .mapping (fields ++ [
      (.text "parameters", .list (parameters ++
        [.mapping [(.text "name", .scalar (.text "limit")), (.text "in", .scalar (.text "query"))]])),
      (.text "requestBody", userBody formats),
      (.text "responses", .mapping [(.text "200", userBody formats)])]))]))]))])

/-- All kinds of parts that do not matter are left out at once. -/
theorem ofValue_eq_of_trims_user :
    let v := userDocument [(.text "openapi", .scalar (.text "3.0.0")), (.int 7, .scalar .null)]
      [(.text "responses", .mapping [])] [(.int 1, .mapping []), (.text "/none", .list [])]
      [(.text "description", .mapping []), (.text "get", .scalar .null)] [(.text "tags", .list [])]
      [.scalar (.text "limit"), .mapping [(.text "in", .scalar (.text "query"))],
        .mapping [(.text "name", .scalar (.text "limit")), (.text "in", .scalar (.int 3))],
        .mapping [(.text "name", .scalar (.text "token")), (.text "in", .scalar (.text "header"))]]
      ["text/xml", "application/json"]
    let w := userDocument [] [] [] [] [] [] ["application/json"]
    Document.Trims v w ∧ ofValue "Api." v = ofValue "Api." w := by
  intro v w
  have hbody : TrimsBody (userBody ["text/xml", "application/json"]) (userBody ["application/json"]) :=
    .mapping (.keep ⟨rfl, .mapping (.drop (by decide) (.keep ⟨rfl, rfl⟩ .nil))⟩ .nil)
  have htrims : Document.Trims v w := by
    refine .mapping (.drop (by decide) (.drop (by decide) (.keep ⟨rfl, ?_⟩ (.keep ⟨rfl, ?_⟩ .nil))))
    · exact .mapping (.drop (by decide) (.keep ⟨rfl, rfl⟩ .nil))
    · refine .mapping (.drop (.inl nofun) (.drop (.inr rfl) (.keep ⟨rfl, ?_⟩ .nil)))
      refine .mapping (.drop (.inl ?_) (.drop (.inr rfl) (.keep ⟨rfl, ?_⟩ .nil)))
      · rintro method ⟨⟩
        decide
      · refine .mapping (.drop (by decide) (.keep ⟨rfl, .list ?_⟩ (.keep ⟨rfl, hbody⟩
          (.keep ⟨rfl, .mapping (.keep ⟨rfl, hbody⟩ .nil)⟩ .nil))))
        exact .drop (.inl rfl) (.drop (.inr (.inl rfl)) (.drop (.inr (.inr (.inl rfl)))
          (.drop (.inr (.inr (.inr ⟨"header", rfl, by decide, by decide⟩))) (.keep rfl .nil))))
  exact ⟨htrims, ofValue_eq_of_trims htrims "Api."⟩

end Generated

end ApiTypes
