/-
# Declarations of operations

For each operation: an interface of its query parameters, an interface of its path parameters and an alias for the body
of its request, each only when there is something to declare.

The declarations are drafted first, under the names they would like to have; then the names are claimed in order, so
that a name that is taken gets a number.
-/
import ApiTypes.Declaration.Comment
import ApiTypes.Document.Basic
import ApiTypes.Name.Registry

namespace ApiTypes

/-! ## Drafts -/

/-- The type of a parameter; without a schema it is not known. -/
def Parameter.typeText (qualifier : String) (p : Parameter) : String :=
  match p.schema with
  | some schema => schema.typeText qualifier
  | none => TypeExpr.render qualifier .any

/-- A parameter as a field of an interface. -/
def Parameter.member (qualifier : String) (required : Bool) (p : Parameter) : Member :=
  ⟨p.name, p.typeText qualifier, required, p.description⟩

namespace Operation

/-- The beginning of the names of an operation's declarations. -/
def baseName (op : Operation) : String :=
  Name.upperFirst op.method ++ Name.pathTypeName op.path

/-- The comment on a declaration of an operation. -/
def comment (op : Operation) (content : String) : String :=
  Comment.operation op.method op.path op.summary content

/-- The parameters at a location. -/
def parametersAt (op : Operation) (location : String) : List Parameter :=
  op.parameters.filter fun p => p.location = location

/-- An interface of fields, unless there are none. -/
def interfaceDraft (op : Operation) (suffix content : String) (members : List Member) : List Declaration :=
  if members.isEmpty then []
  else [⟨op.baseName ++ suffix, .interface, Member.interfaceBody members, op.comment content⟩]

/-- The interface of the query parameters; each says itself whether it is required. -/
def queryDraft (qualifier : String) (op : Operation) : List Declaration :=
  op.interfaceDraft "QueryParams" "Query Parameters"
    ((op.parametersAt "query").map fun p => p.member qualifier p.required)

/-- The interface of the path parameters; all of them are required. -/
def pathDraft (qualifier : String) (op : Operation) : List Declaration :=
  op.interfaceDraft "PathParams" "Path Parameters"
    ((op.parametersAt "path").map fun p => p.member qualifier true)

/-- The alias for the body of the request. -/
def bodyDraft (qualifier : String) (op : Operation) : List Declaration :=
  op.body.toList.map fun schema =>
    ⟨op.baseName ++ "RequestBody", .alias, schema.typeText qualifier, op.comment "Request Body"⟩

/-- The declarations of an operation, under the names they would like to have. -/
def drafts (qualifier : String) (op : Operation) : List Declaration :=
  op.queryDraft qualifier ++ op.pathDraft qualifier ++ op.bodyDraft qualifier

end Operation

/-! ## Claiming names -/

namespace Registry

/-- Gives each draft a free name, in order. -/
def nameAll : List Declaration → Registry → List Declaration × Registry
  | [], taken => ([], taken)
  | draft :: rest, taken =>
    let (name, taken) := taken.claim draft.name
    let (others, taken) := nameAll rest taken
    ({ draft with name := name } :: others, taken)

@[simp] theorem nameAll_nil (taken : Registry) : nameAll [] taken = ([], taken) := rfl

theorem nameAll_cons (draft : Declaration) (rest : List Declaration) (taken : Registry) :
    nameAll (draft :: rest) taken =
      ({ draft with name := taken.freeName draft.name } ::
          (nameAll rest (taken.reserve (taken.freeName draft.name))).1,
        (nameAll rest (taken.reserve (taken.freeName draft.name))).2) := rfl

/-- Naming two lists of drafts one after the other names the whole list. -/
theorem nameAll_append (first second : List Declaration) (taken : Registry) :
    nameAll (first ++ second) taken =
      ((nameAll first taken).1 ++ (nameAll second (nameAll first taken).2).1,
        (nameAll second (nameAll first taken).2).2) := by
  induction first generalizing taken with
  | nil => rfl
  | cons draft rest ih => simp [nameAll_cons, ih]

/-- Every draft gives one declaration. -/
theorem length_nameAll (drafts : List Declaration) (taken : Registry) :
    (nameAll drafts taken).1.length = drafts.length := by
  induction drafts generalizing taken with
  | nil => rfl
  | cons draft rest ih => simp [nameAll_cons, ih]

end Registry

/-- The declarations of operations, with the names claimed in a registry. -/
def Operation.requestDeclarations (qualifier : String) (operations : List Operation) (taken : Registry) :
    List Declaration × Registry :=
  Registry.nameAll (operations.flatMap (Operation.drafts qualifier)) taken

/-- What the declarations of operations are made for: a document that was read, or the data of one. -/
inductive RequestSource
  | document (doc : Document)
  | data (value : Value)

namespace RequestSource

/-- The operations of a source. -/
def operations : RequestSource → List Operation
  | document doc => doc.operations
  | data value => Operation.ofDocument value

/-- The declarations for the operations of a source, with the names claimed in a registry. -/
def declarations (qualifier : String) (source : RequestSource) (taken : Registry) : List Declaration × Registry :=
  Operation.requestDeclarations qualifier source.operations taken

end RequestSource

end ApiTypes
