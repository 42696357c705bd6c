/-
# Where the declarations come from

Every declaration of a module is made from one source (`DeclarationSource`): a choice, a combination or a record among the
named schemas, or the query parameters, the path parameters or the body of an operation.  The source settles the kind, the
body and the comment; only the name may depend on the declarations before it.

* `Document.sources`: the sources in a document, in the order of the declarations.
* `Registry.nameAll_eq_zipWith`: which names are claimed depends on the wished names alone.
* `Generated.declarations_eq_zipWith`: the declarations of a document are made from its sources.
-/
import ApiTypes.Generation.Basic
import Mathlib.Data.List.Basic

namespace ApiTypes

/-! ## Sources -/

/-- What a declaration is made from. -/
inductive DeclarationSource
  | choice (name : String) (variants : List String) (comments : List (String × String))
  | combination (name : String) (combinator : Combinator) (members : List Schema) (description : Option String)
  | record (name : String) (properties : List (String × Schema)) (required : NameSet) (description : Option String)
  | query (op : Operation)
  | path (op : Operation)
  | body (op : Operation) (schema : Schema)

namespace DeclarationSource

/-- The name that the declaration would like to have. -/
def candidate : DeclarationSource → String
  | choice name _ _ => Name.cleanName name
  | combination name _ _ _ => Name.cleanName name
  | record name _ _ _ => Name.cleanName name
  | query op => op.baseName ++ "QueryParams"
  | path op => op.baseName ++ "PathParams"
  | body op _ => op.baseName ++ "RequestBody"

/-- The kind of the declaration. -/
def kind : DeclarationSource → DeclarationKind
  | choice _ _ _ => .enum
  | combination _ _ _ _ => .alias
  | record _ _ _ _ => .interface
  | query _ => .interface
  | path _ => .interface
  | body _ _ => .alias

/-- The text of the declaration behind its head. -/
def bodyText (qualifier : String) : DeclarationSource → String
  | choice _ variants comments => Arm.enumBody (Schema.arms variants comments)
  | combination _ combinator members _ => Schema.combine combinator (members.map (Schema.typeText qualifier))
  | record _ properties required description =>
    Member.interfaceBody ((Schema.object properties required description).members qualifier)
  | query op => Member.interfaceBody ((op.parametersAt "query").map fun p => p.member qualifier p.required)
  | path op => Member.interfaceBody ((op.parametersAt "path").map fun p => p.member qualifier true)
  | body _ schema => schema.typeText qualifier

/-- The comment in front of the declaration; that of a schema says first which operations use it. -/
def comment (operations : List Operation) : DeclarationSource → String
  | choice name _ _ => Comment.usage (Operation.endpointsFor name operations)
  | combination name _ _ description =>
    Comment.usage (Operation.endpointsFor name operations) ++ Comment.line "" description
  | record name _ _ description =>
    Comment.usage (Operation.endpointsFor name operations) ++ Comment.line "" description
  | query op => op.comment "Query Parameters"
  | path op => op.comment "Path Parameters"
  | body op _ => op.comment "Request Body"

/-- The declaration made from a source under a name. -/
def declare (qualifier : String) (operations : List Operation) (source : DeclarationSource) (name : String) :
    Declaration :=
  ⟨name, source.kind, source.bodyText qualifier, source.comment operations⟩

end DeclarationSource

/-! ## The sources in a document -/

namespace Schema

/-- The source that the first pass over the schemas finds. -/
def choiceSource? (name : String) : Schema → Option DeclarationSource
  | enumeration variants comments _ => some (.choice name variants comments)
  | _ => none

/-- The source that the second pass over the schemas finds. -/
def typeSource? (name : String) : Schema → Option DeclarationSource
  | composite combinator members description => some (.combination name combinator members description)
  | object properties required description => some (.record name properties required description)
  | _ => none

end Schema

namespace Operation

/-- The sources in an operation. -/
def sources (op : Operation) : List DeclarationSource :=
  (if (op.parametersAt "query").isEmpty then [] else [.query op]) ++
    (if (op.parametersAt "path").isEmpty then [] else [.path op]) ++ op.body.toList.map (.body op)

end Operation

namespace Document

/-- The sources among the named schemas. -/
def schemaSources (doc : Document) : List DeclarationSource :=
  doc.definitions.filterMap (fun definition => definition.2.choiceSource? definition.1) ++
    doc.definitions.filterMap fun definition => definition.2.typeSource? definition.1

/-- The sources in the operations. -/
def requestSources (doc : Document) : List DeclarationSource :=
  doc.operations.flatMap Operation.sources

/-- The sources in a document, in the order of the declarations. -/
def sources (doc : Document) : List DeclarationSource :=
  doc.schemaSources ++ doc.requestSources

end Document

/-! ## Names that are claimed -/

namespace Registry

/-- The names that candidates get, one after the other. -/
def claimAll : List String → Registry → List String
  | [], _ => []
  | candidate :: rest, taken => taken.freeName candidate :: claimAll rest (taken.reserve (taken.freeName candidate))

theorem length_claimAll (candidates : List String) (taken : Registry) :
    (claimAll candidates taken).length = candidates.length := by
  induction candidates generalizing taken with
  | nil => rfl
  | cons candidate rest ih => rw [claimAll, List.length_cons, List.length_cons, ih]

/-- Naming drafts changes only their names, and looks only at these. -/
theorem nameAll_eq_zipWith (drafts : List Declaration) (taken : Registry) :
    (nameAll drafts taken).1 =
      List.zipWith (fun draft name => { draft with name := name }) drafts
        (claimAll (drafts.map Declaration.name) taken) := by
  induction drafts generalizing taken with
  | nil => rfl
  | cons draft rest ih => rw [nameAll_cons, ih, List.map_cons, claimAll, List.zipWith_cons_cons]

end Registry

namespace Document

/-- The names of the declarations of the schemas. -/
def schemaNames (doc : Document) : List String :=
  doc.schemaSources.map DeclarationSource.candidate

/-- The names of all declarations: those of the schemas as they are, and for the operations what is free. -/
def names (doc : Document) : List String :=
  doc.schemaNames ++
    Registry.claimAll (doc.requestSources.map DeclarationSource.candidate) (doc.schemaNames.foldl Registry.reserve ∅)

theorem length_names (doc : Document) : doc.names.length = doc.sources.length := by
  rw [names, sources, schemaNames, List.length_append, List.length_append, Registry.length_claimAll, List.length_map,
    List.length_map]

end Document

/-! ## The declarations of a document -/

namespace DeclarationSource

/-- The declaration made from a source, under the name that it would like to have. -/
def draft (qualifier : String) (operations : List Operation) (source : DeclarationSource) : Declaration :=
  source.declare qualifier operations source.candidate

end DeclarationSource

namespace Operation

/-- The drafts of an operation are those of its sources; other operations do not show in them. -/
theorem drafts_eq_map (qualifier : String) (operations : List Operation) (op : Operation) :
    op.drafts qualifier = op.sources.map (DeclarationSource.draft qualifier operations) := by
  rw [drafts, sources, List.map_append, List.map_append]
  congr 1
  · congr 1
    · rw [queryDraft, interfaceDraft, List.isEmpty_map]
      cases (op.parametersAt "query").isEmpty <;> rfl
    · rw [pathDraft, interfaceDraft, List.isEmpty_map]
      cases (op.parametersAt "path").isEmpty <;> rfl
  · rw [bodyDraft, List.map_map]
    rfl

end Operation

namespace Generated

variable (qualifier : String) (doc : Document)

theorem map_withUsage_enumDeclaration? (operations : List Operation) (name : String) (schema : Schema) :
    (schema.enumDeclaration? name).map (withUsage operations name) =
      (schema.choiceSource? name).map (DeclarationSource.draft qualifier operations) := by
  cases schema with
  | enumeration variants comments _ =>
      simp [Schema.enumDeclaration?, withUsage, Schema.choiceSource?, DeclarationSource.draft, DeclarationSource.declare,
        DeclarationSource.candidate, DeclarationSource.kind, DeclarationSource.bodyText, DeclarationSource.comment]
  | _ => rfl

theorem map_withUsage_typeDeclaration? (operations : List Operation) (name : String) (schema : Schema) :
    (schema.typeDeclaration? qualifier name).map (withUsage operations name) =
      (schema.typeSource? name).map (DeclarationSource.draft qualifier operations) := by
  cases schema <;> rfl

/-- The declarations of the schemas are those of their sources. -/
theorem schemaDeclarations_eq_map :
    schemaDeclarations qualifier doc =
      doc.schemaSources.map (DeclarationSource.draft qualifier doc.operations) := by
  rw [schemaDeclarations, enumDeclarations, typeDeclarations, Document.schemaSources, List.map_append,
    List.map_filterMap, List.map_filterMap]
  congr 1
  · apply List.filterMap_congr
    rintro ⟨name, schema⟩ _
    exact map_withUsage_enumDeclaration? qualifier doc.operations name schema
  · apply List.filterMap_congr
    rintro ⟨name, schema⟩ _
    exact map_withUsage_typeDeclaration? qualifier doc.operations name schema

theorem map_name_schemaDeclarations : (schemaDeclarations qualifier doc).map Declaration.name = doc.schemaNames := by
  rw [schemaDeclarations_eq_map, List.map_map, Document.schemaNames]
  rfl

/-- The declarations of the operations are those of their sources, under the names that are free. -/
theorem requests_eq_zipWith :
    (ofDocument qualifier doc).requests =
      List.zipWith (DeclarationSource.declare qualifier doc.operations) doc.requestSources
        (Registry.claimAll (doc.requestSources.map DeclarationSource.candidate)
          (doc.schemaNames.foldl Registry.reserve ∅)) := by
  have hdrafts : doc.operations.flatMap (Operation.drafts qualifier) =
      doc.requestSources.map (DeclarationSource.draft qualifier doc.operations) := by
    rw [Document.requestSources, List.map_flatMap]
    exact List.flatMap_congr fun op _ => op.drafts_eq_map qualifier doc.operations
  rw [ofDocument, Operation.requestDeclarations, map_name_schemaDeclarations, hdrafts, Registry.nameAll_eq_zipWith,
    List.map_map, List.zipWith_map_left]
  rfl

/-- **The declarations of a document** are made from its sources, one from each and in the same order.  Their names do not
depend on the qualifier. -/
theorem declarations_eq_zipWith :
    (ofDocument qualifier doc).declarations =
      List.zipWith (DeclarationSource.declare qualifier doc.operations) doc.sources doc.names := by
  have hschemas : (ofDocument qualifier doc).schemas =
      List.zipWith (DeclarationSource.declare qualifier doc.operations) doc.schemaSources doc.schemaNames := by
    rw [Document.schemaNames, List.zipWith_map_right, List.zipWith_self]
    exact schemaDeclarations_eq_map qualifier doc
  rw [declarations, hschemas, requests_eq_zipWith, Document.sources, Document.names, List.zipWith_append]
  rw [Document.schemaNames, List.length_map]

/-- Every source has its declaration. -/
theorem exists_declaration {source : DeclarationSource} (h : source ∈ doc.sources) :
    ∃ d ∈ (ofDocument qualifier doc).declarations, ∃ name, d = source.declare qualifier doc.operations name := by
  obtain ⟨i, hi, rfl⟩ := List.mem_iff_getElem.mp h
  have hname : i < doc.names.length := by
    rw [doc.length_names]
    exact hi
  have hi' : i < (List.zipWith (DeclarationSource.declare qualifier doc.operations) doc.sources doc.names).length := by
    rw [List.length_zipWith]
    exact Nat.lt_min.mpr ⟨hi, hname⟩
  rw [declarations_eq_zipWith]
  exact ⟨_, List.getElem_mem hi', doc.names[i], List.getElem_zipWith⟩

end Generated

end ApiTypes
