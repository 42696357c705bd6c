/-
# Names of the declarations of operations

The drafts of the operations get their names in order, each name chosen against the names of the schemas and of the
declarations before it.

* `Registry.handsOut_nameAll`: the names that are given are new and differ from each other.
* `Registry.exists_draft_of_nameAll`: each is the one that its draft's candidate gets at its turn.
* `Generated.requests_named`: the same for all declarations of a document, with the operation that each comes from.
-/
import ApiTypes.Proofs.Generation.Schemas
import ApiTypes.Proofs.Naming.Registry

namespace ApiTypes

/-! ## Naming drafts -/

namespace Registry

/-- **Names of a run.**  The names given to drafts are new and pairwise different, and they are in use afterwards. -/
theorem handsOut_nameAll (drafts : List Declaration) (taken : Registry) :
    HandsOut taken ((nameAll drafts taken).1.map Declaration.name) (nameAll drafts taken).2 := by
  induction drafts generalizing taken with
  | nil => exact HandsOut.refl taken
  | cons draft rest ih =>
      have hrest := ih (taken.claim draft.name).2
      exact (HandsOut.claim taken draft.name).trans hrest

/-- **The turn of a draft.**  A declaration in the middle of the named ones is the draft at the same place, under the name
that its candidate gets after the names before it. -/
theorem exists_draft_of_nameAll {drafts before after : List Declaration} {d : Declaration} {taken : Registry}
    (h : (nameAll drafts taken).1 = before ++ d :: after) :
    ∃ first draft rest, drafts = first ++ draft :: rest ∧ first.length = before.length ∧
      d = { draft with name := d.name } ∧
      GivenFor (taken.names ++ before.map Declaration.name) draft.name d.name := by
  have hlength : before.length < drafts.length := by
    rw [← length_nameAll drafts taken, h]
    simp
  obtain ⟨first, draft, rest, rfl, hfirst⟩ : ∃ first draft rest, drafts = first ++ draft :: rest ∧
      first.length = before.length :=
    ⟨drafts.take before.length, drafts[before.length], drafts.drop (before.length + 1), by simp, by simp; omega⟩
  -- the drafts before the place are named first, and add to the names in use exactly those of `before`
  rw [nameAll_append, nameAll_cons] at h
  have hsame : (nameAll first taken).1.length = before.length := by rw [length_nameAll, hfirst]
  obtain ⟨hbefore, htail⟩ := List.append_inj h hsame
  obtain ⟨hd, _⟩ := List.cons.inj htail
  refine ⟨first, draft, rest, rfl, hfirst, ?_, ?_⟩
  · rw [← hd]
  · rw [← hd]
    refine (freeName_givenFor (nameAll first taken).2 draft.name).congr fun name => ?_
    have hmem := (handsOut_nameAll first taken).mem_after name
    rw [hbefore] at hmem
    rw [List.mem_append]
    exact hmem

theorem mem_foldl_reserve {names : List String} {taken : Registry} {name : String} :
    name ∈ names.foldl reserve taken ↔ name ∈ names ∨ name ∈ taken :=
  NameSet.mem_foldl_insert

end Registry

/-! ## Candidates -/

namespace Operation

variable {qualifier : String}

/-- The drafts of an operation are called after its method and path and what they declare. -/
theorem name_of_mem_drafts {op : Operation} {draft : Declaration} (h : draft ∈ op.drafts qualifier) :
    (draft ∈ op.queryDraft qualifier ∧
        draft.name = Name.upperFirst op.method ++ Name.pathTypeName op.path ++ "QueryParams") ∨
      (draft ∈ op.pathDraft qualifier ∧
        draft.name = Name.upperFirst op.method ++ Name.pathTypeName op.path ++ "PathParams") ∨
      (draft ∈ op.bodyDraft qualifier ∧
        draft.name = Name.upperFirst op.method ++ Name.pathTypeName op.path ++ "RequestBody") := by
  have hinterface : ∀ suffix content members, draft ∈ op.interfaceDraft suffix content members →
      draft.name = op.baseName ++ suffix := by
    intro suffix content members hdraft
    unfold interfaceDraft at hdraft
    split at hdraft
    · cases hdraft
    · rw [List.mem_singleton.mp hdraft]
  rw [drafts, List.mem_append, List.mem_append] at h
  rcases h with (hquery | hpath) | hbody
  · exact .inl ⟨hquery, hinterface _ _ _ hquery⟩
  · exact .inr (.inl ⟨hpath, hinterface _ _ _ hpath⟩)
  · refine .inr (.inr ⟨hbody, ?_⟩)
    obtain ⟨schema, _, rfl⟩ := List.mem_map.mp hbody
    rfl

/-- The draft at a place among the drafts of several operations: it is a draft of the operation, which has its own place
among the operations. -/
def IsDraftAt (qualifier : String) (operations : List Operation) (place : Nat) (op : Operation)
    (draft : Declaration) : Prop :=
  ∃ earlier later first second, operations = earlier ++ op :: later ∧ op.drafts qualifier = first ++ draft :: second ∧
    place = (earlier.flatMap (drafts qualifier)).length + first.length

theorem IsDraftAt.mem_drafts {operations : List Operation} {place : Nat} {op : Operation} {draft : Declaration}
    (h : IsDraftAt qualifier operations place op draft) : draft ∈ op.drafts qualifier := by
  obtain ⟨earlier, later, first, second, _, hdrafts, _⟩ := h
  simp [hdrafts]

/-- Every draft of several operations is a draft of one of them. -/
theorem exists_isDraftAt {operations : List Operation} {first rest : List Declaration} {draft : Declaration}
    (h : operations.flatMap (drafts qualifier) = first ++ draft :: rest) :
    ∃ op, IsDraftAt qualifier operations first.length op draft := by
  induction operations generalizing first with
  | nil => cases first <;> cases h
  | cons op others ih =>
      rw [List.flatMap_cons, List.append_eq_append_iff] at h
      -- the place lies behind the drafts of the first operation, or among them
      rcases h with ⟨middle, hfirst, hothers⟩ | ⟨middle, hop, htail⟩
      · obtain ⟨other, earlier, later, before, after, rfl, hdrafts, hplace⟩ := ih hothers
        refine ⟨other, op :: earlier, later, before, after, rfl, hdrafts, ?_⟩
        rw [hfirst, List.length_append, hplace, List.flatMap_cons, List.length_append, Nat.add_assoc]
      · cases middle with
        | nil =>
            obtain ⟨other, earlier, later, before, after, rfl, hdrafts, hplace⟩ :=
              ih (by simpa using htail.symm : _ = [] ++ draft :: rest)
            refine ⟨other, op :: earlier, later, before, after, rfl, hdrafts, ?_⟩
            rw [List.append_nil] at hop
            rw [← hop, List.flatMap_cons, List.length_append, Nat.add_assoc, ← hplace]
            rfl
        | cons head middle =>
            obtain ⟨rfl, _⟩ := List.cons.inj htail
            exact ⟨op, [], others, first, middle, rfl, hop, by simp⟩

end Operation

/-! ## The declarations of a document -/

namespace Generated

section Document

variable (qualifier : String) (doc : Document)

/-- The names in use when the first draft of a document is named: those of the declarations of its schemas. -/
def schemaNames : Registry :=
  ((schemaDeclarations qualifier doc).map Declaration.name).foldl Registry.reserve ∅

theorem mem_schemaNames {name : String} :
    name ∈ schemaNames qualifier doc ↔ name ∈ (schemaDeclarations qualifier doc).map Declaration.name := by
  rw [schemaNames, Registry.mem_foldl_reserve]
  exact or_iff_left (NameSet.not_mem_empty name)

theorem requests_ofDocument : (ofDocument qualifier doc).requests =
    (Registry.nameAll (doc.operations.flatMap (Operation.drafts qualifier)) (schemaNames qualifier doc)).1 := rfl

/-- The names of the declarations of operations are handed out after those of the schemas. -/
theorem handsOut_requests : ∃ after : Registry,
    Registry.HandsOut (schemaNames qualifier doc) ((ofDocument qualifier doc).requests.map Declaration.name) after :=
  ⟨_, Registry.handsOut_nameAll (doc.operations.flatMap (Operation.drafts qualifier)) (schemaNames qualifier doc)⟩

/-- A declaration of an operation does not have the name of a schema. -/
theorem name_ne_of_mem_requests {request schema : Declaration} (hrequest : request ∈ (ofDocument qualifier doc).requests)
    (hschema : schema ∈ (ofDocument qualifier doc).schemas) : request.name ≠ schema.name := by
  obtain ⟨after, hout⟩ := handsOut_requests qualifier doc
  intro hname
  apply hout.fresh request.name (List.mem_map_of_mem hrequest)
  rw [mem_schemaNames, hname]
  exact List.mem_map_of_mem hschema

/-- The operation that a declaration comes from, and the candidate that it got its name for. -/
theorem exists_draft_of_requests {before after : List Declaration} {request : Declaration}
    (h : (ofDocument qualifier doc).requests = before ++ request :: after) :
    ∃ op draft, Operation.IsDraftAt qualifier doc.operations before.length op draft ∧
      request = { draft with name := request.name } ∧
      Registry.GivenFor ((ofDocument qualifier doc).schemas.map Declaration.name ++ before.map Declaration.name)
        draft.name request.name := by
  rw [requests_ofDocument] at h
  obtain ⟨first, draft, rest, hdrafts, hlength, hsame, hgiven⟩ := Registry.exists_draft_of_nameAll h
  obtain ⟨op, hop⟩ := Operation.exists_isDraftAt hdrafts
  rw [hlength] at hop
  refine ⟨op, draft, hop, hsame, hgiven.congr fun name => ?_⟩
  rw [List.mem_append, List.mem_append, ← NameSet.mem_def, mem_schemaNames]
  rfl

end Document

/-- **Names of the declarations of operations.**  They differ from each other and from the names of the schemas.  Each is
made from the method and the path of the operation that the declaration comes from and the kind of the declaration; it is
that candidate itself if no schema and no declaration before it has the name, and otherwise the candidate with the least
number from one on that is free. -/
theorem requests_named {qualifier : String} {value : Value} {g : Generated} (h : ofValue qualifier value = .ok g) :
    ∃ doc, Document.ofValue value = .ok doc ∧ (g.requests.map Declaration.name).Nodup ∧
      (∀ request ∈ g.requests, ∀ schema ∈ g.schemas, request.name ≠ schema.name) ∧
      ∀ before request after, g.requests = before ++ request :: after →
        ∃ op draft, Operation.IsDraftAt qualifier doc.operations before.length op draft ∧
          request = { draft with name := request.name } ∧
          ((draft ∈ op.queryDraft qualifier ∧
              draft.name = Name.upperFirst op.method ++ Name.pathTypeName op.path ++ "QueryParams") ∨
            (draft ∈ op.pathDraft qualifier ∧
              draft.name = Name.upperFirst op.method ++ Name.pathTypeName op.path ++ "PathParams") ∨
            (draft ∈ op.bodyDraft qualifier ∧
              draft.name = Name.upperFirst op.method ++ Name.pathTypeName op.path ++ "RequestBody")) ∧
          Registry.GivenFor (g.schemas.map Declaration.name ++ before.map Declaration.name) draft.name
            request.name := by
  obtain ⟨doc, hdoc, rfl⟩ := ofValue_eq_ok_iff.mp h
  obtain ⟨_, hout⟩ := handsOut_requests qualifier doc
  refine ⟨doc, hdoc, hout.nodup, ?_, ?_⟩
  · intro request hrequest schema hschema
    exact name_ne_of_mem_requests qualifier doc hrequest hschema
  · intro before request rest hsplit
    obtain ⟨op, draft, hop, hsame, hgiven⟩ := exists_draft_of_requests qualifier doc hsplit
    exact ⟨op, draft, hop, hsame, Operation.name_of_mem_drafts hop.mem_drafts, hgiven⟩

/-- A document with the given schemas and one operation, which takes a query parameter. -/
def listingDocument (schemas : Entries) : Value :=
  .mapping
    [(.text "components", .mapping [(.text "schemas", .mapping schemas)]),
      (.text "paths", .mapping [(.text "/users", .mapping [(.text "get", .mapping [(.text "parameters", .list
        [.mapping [(.text "name", .scalar (.text "limit")), (.text "in", .scalar (.text "query"))]])])])])]

/-- A schema has the name that the operation would like to have and the first numbered one: the second number is used. -/
theorem requests_named_listing :
    let declared := Value.mapping [(.text "properties", .mapping [])]
    let value := listingDocument [(.text "GetUsersQueryParams", declared), (.text "getUsersQueryParams1", declared)]
    ∃ g, ofValue "" value = .ok g ∧ g.requests.map Declaration.name = ["GetUsersQueryParams2"] ∧
      (g.requests.map Declaration.name).Nodup ∧
      ∀ request ∈ g.requests, ∀ schema ∈ g.schemas, request.name ≠ schema.name := by
  intro declared value
  refine ⟨_, rfl, by decide +kernel, ?_⟩
  obtain ⟨_, _, hnodup, hdistinct, _⟩ := requests_named (rfl : ofValue "" value = .ok _)
  exact ⟨hnodup, hdistinct⟩

end Generated

end ApiTypes
