/-
# Documents that grow

The names of the declarations of operations are claimed in order, and what is claimed is not given back.  Operations that
come later have therefore no part in the declarations before them: when paths are added behind those of a document, its
declarations of operations keep their names, bodies and comments, and their places.

* `Operation.requestDeclarations_append`: operations one after the other, with the registry passed on.
* `Operation.ofDocument_addPaths`: paths that are added bring operations behind those of the document.
* `Generated.requests_addPaths`: what is generated for a document begins what is generated when paths were added.
-/
import ApiTypes.Proofs.Generation.Partition
import ApiTypes.Proofs.Generation.Sources
import ApiTypes.Proofs.Naming.Requests

namespace ApiTypes

/-! ## Operations one after the other -/

namespace Operation

/-- **One after the other.**  The declarations for two lists of operations are those for the first list, and those for the
second one from the registry that the first one left. -/
theorem requestDeclarations_append (qualifier : String) (first second : List Operation) (taken : Registry) :
    requestDeclarations qualifier (first ++ second) taken =
      ((requestDeclarations qualifier first taken).1 ++
          (requestDeclarations qualifier second (requestDeclarations qualifier first taken).2).1,
        (requestDeclarations qualifier second (requestDeclarations qualifier first taken).2).2) := by
  have hdrafts : (first ++ second).flatMap (drafts qualifier) =
      first.flatMap (drafts qualifier) ++ second.flatMap (drafts qualifier) := List.flatMap_append
  rw [requestDeclarations, hdrafts]
  exact Registry.nameAll_append _ _ taken

/-- The declarations for some operations begin those for more operations. -/
theorem requestDeclarations_prefix (qualifier : String) (first second : List Operation) (taken : Registry) :
    (requestDeclarations qualifier first taken).1 <+: (requestDeclarations qualifier (first ++ second) taken).1 := by
  rw [requestDeclarations_append]
  exact List.prefix_append _ _

end Operation

/-! ## Further paths -/

namespace Value

/-- The entries under `paths`, if a mapping stands there. -/
def pathEntries (document : Value) : Entries :=
  ((document.field? "paths").bind entries?).getD []

/-- The document with further entries behind those under `paths`. -/
def addPaths (more : Entries) : Value → Value
  | mapping entries => mapping (put (.text "paths") (.mapping ((mapping entries).pathEntries ++ more)) entries)
  | other => other

theorem field?_paths_addPaths (more entries : Entries) :
    ((mapping entries).addPaths more).field? "paths" = some (.mapping ((mapping entries).pathEntries ++ more)) := by
  rw [addPaths, field?_mapping, lookup_put, if_pos rfl]

theorem field?_addPaths (more : Entries) (document : Value) {name : String} (h : name ≠ "paths") :
    (document.addPaths more).field? name = document.field? name := by
  cases document with
  | mapping entries => rw [addPaths, field?_mapping, lookup_put, if_neg h, field?_mapping]
  | scalar _ => rfl
  | list _ => rfl
  | set _ => rfl

end Value

namespace Operation

/-- What stands under `paths` and is no mapping makes no operations. -/
theorem ofDocument_eq_flatMap (document : Value) : ofDocument document = document.pathEntries.flatMap ofPath := by
  rw [ofDocument, Value.pathEntries]
  cases document.field? "paths" with
  | none => rfl
  | some paths => cases paths <;> rfl

/-- The operations of the paths that are added come behind those of the document. -/
theorem ofDocument_addPaths (more entries : Entries) :
    ofDocument ((Value.mapping entries).addPaths more) = ofDocument (.mapping entries) ++ ofPaths (.mapping more) := by
  have hpaths : ((Value.mapping entries).addPaths more).pathEntries = (Value.mapping entries).pathEntries ++ more := by
    rw [Value.pathEntries, Value.field?_paths_addPaths]
    rfl
  rw [ofDocument_eq_flatMap, hpaths, List.flatMap_append, ← ofDocument_eq_flatMap]
  rfl

end Operation

namespace Document

theorem schemasIn_addPaths (more : Entries) (document : Value) :
    schemasIn (document.addPaths more) = schemasIn document := by
  rw [schemasIn, Value.field?_addPaths more document (by decide), ← schemasIn]

/-- A document can still be read when paths were added: its schemas are the same, and it has further operations. -/
theorem ofValue_addPaths {document : Value} {doc : Document} (h : ofValue document = .ok doc) (more : Entries) :
    ofValue (document.addPaths more) =
      .ok { doc with operations := doc.operations ++ Operation.ofPaths (.mapping more) } := by
  rw [ofValue] at h
  rw [ofValue, schemasIn_addPaths]
  cases hschemas : schemasIn document with
  | none =>
      rw [hschemas] at h
      cases h
  | some schemas =>
      obtain ⟨entries, _, rfl, _, _⟩ := schemasIn_eq_some_iff.mp hschemas
      rw [hschemas] at h
      cases h
      rw [Operation.ofDocument_addPaths]

end Document

namespace Generated

/-- The names of the declarations of the schemas do not depend on the operations. -/
theorem map_name_schemaDeclarations_of_definitions (qualifier : String) {doc other : Document}
    (h : doc.definitions = other.definitions) :
    (schemaDeclarations qualifier doc).map Declaration.name = (schemaDeclarations qualifier other).map Declaration.name := by
  rw [map_name_schemaDeclarations, map_name_schemaDeclarations, Document.schemaNames, Document.schemaNames,
    Document.schemaSources, Document.schemaSources, h]

/-- Operations that are added leave the declarations of the earlier ones as they are. -/
theorem requests_prefix (qualifier : String) (doc : Document) (further : List Operation) :
    (ofDocument qualifier doc).requests <+:
      (ofDocument qualifier { doc with operations := doc.operations ++ further }).requests := by
  have hnames := map_name_schemaDeclarations_of_definitions qualifier
    (rfl : doc.definitions = { doc with operations := doc.operations ++ further }.definitions)
  rw [ofDocument, ofDocument, ← hnames]
  exact Operation.requestDeclarations_prefix qualifier doc.operations further _

/-- **What was generated stays.**  The declarations for operations that stand one after the other are those for the first
ones, and then those for the others from the registry that the first ones left.

For a document the declarations of its operations are the same whether they are made from the document or from its data.
When paths are added behind those that it has, the declarations of its operations come first, each as it was, and then those
of the operations that were added. -/
theorem requests_addPaths (qualifier : String) :
    (∀ (first second : List Operation) (taken : Registry),
      let (declarations, between) := Operation.requestDeclarations qualifier first taken
      let (others, after) := Operation.requestDeclarations qualifier second between
      Operation.requestDeclarations qualifier (first ++ second) taken = (declarations ++ others, after)) ∧
    ∀ (document : Value) (doc : Document), Document.ofValue document = .ok doc →
      (∀ taken, (RequestSource.document doc).declarations qualifier taken =
        (RequestSource.data document).declarations qualifier taken) ∧
      ∀ more : Entries,
        (∀ taken,
          let (declarations, between) := (RequestSource.data document).declarations qualifier taken
          let (others, after) := Operation.requestDeclarations qualifier (Operation.ofPaths (.mapping more)) between
          (RequestSource.data (document.addPaths more)).declarations qualifier taken = (declarations ++ others, after)) ∧
        ∃ g extended, ofValue qualifier document = .ok g ∧ ofValue qualifier (document.addPaths more) = .ok extended ∧
          g.requests <+: extended.requests := by
  refine ⟨Operation.requestDeclarations_append qualifier, ?_⟩
  intro document doc hdoc
  have hoperations : doc.operations = Operation.ofDocument document := Document.operations_of_ofValue hdoc
  constructor
  · intro taken
    show Operation.requestDeclarations qualifier doc.operations taken = _
    rw [hoperations]
    rfl
  · intro more
    have hextended := Document.ofValue_addPaths hdoc more
    constructor
    · intro taken
      have hall : Operation.ofDocument (document.addPaths more) =
          Operation.ofDocument document ++ Operation.ofPaths (.mapping more) := by
        rw [← Document.operations_of_ofValue hextended, ← hoperations]
      show Operation.requestDeclarations qualifier (Operation.ofDocument (document.addPaths more)) taken = _
      rw [hall]
      exact Operation.requestDeclarations_append qualifier _ _ taken
    · refine ⟨ofDocument qualifier doc, _, ?_, ?_, requests_prefix qualifier doc (Operation.ofPaths (.mapping more))⟩
      · exact ofValue_eq_ok_iff.mpr ⟨doc, hdoc, rfl⟩
      · exact ofValue_eq_ok_iff.mpr ⟨_, hextended, rfl⟩

/-- A path is added that gives the same name to its declaration, behind entries that make no operations: the new declaration
gets the number. -/
theorem requests_addPaths_listing :
    let document := listingDocument []
    let more : Entries := [(.int 7, .mapping []), (.text "/users/", .mapping
      [(.text "summary", .scalar (.text "all")), (.text "get", .mapping [(.text "parameters", .list
        [.mapping [(.text "name", .scalar (.text "page")), (.text "in", .scalar (.text "query"))]])])])]
    ∃ doc g extended, Document.ofValue document = .ok doc ∧ ofValue "" document = .ok g ∧
      ofValue "" (document.addPaths more) = .ok extended ∧
      extended.requests.map Declaration.name = ["GetUsersQueryParams", "GetUsersQueryParams1"] ∧
      g.requests <+: extended.requests ∧
      (RequestSource.document doc).declarations "" ∅ = (RequestSource.data document).declarations "" ∅ := by
  intro document more
  have hdoc : Document.ofValue document = .ok _ := rfl
  obtain ⟨hsame, hadded⟩ := (requests_addPaths "").2 document _ hdoc
  obtain ⟨_, g, extended, hg, hextended, hprefix⟩ := hadded more
  have hnames : (ofValue "" (document.addPaths more)).map (fun made => made.requests.map Declaration.name) =
      .ok ["GetUsersQueryParams", "GetUsersQueryParams1"] := by decide +kernel
  rw [hextended] at hnames
  exact ⟨_, g, extended, hdoc, hg, hextended, Except.ok.inj hnames, hprefix, hsame ∅⟩

end Generated

end ApiTypes
