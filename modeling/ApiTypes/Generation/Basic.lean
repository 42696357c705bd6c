/-
# Generating a module

From a document to the declarations of a module: the named schemas first, closed choices before all others, then the
declarations of the operations.  The comment on a schema says where it is used.

The names of the schemas are reserved before any name of an operation is claimed, so that a number is only ever added to
the latter.
-/
import ApiTypes.Declaration.Schema
import ApiTypes.Document.Usage
import ApiTypes.Generation.Requests

namespace ApiTypes

/-- What is made of a document: the declarations of its schemas and of its operations, and the names of the schemas that
are skipped. -/
structure Generated where
  schemas : List Declaration
  requests : List Declaration
  skipped : List String

namespace Generated

/-! ## Schemas -/

/-- Puts the comment on the uses of a schema in front of its declaration. -/
def withUsage (operations : List Operation) (name : String) (d : Declaration) : Declaration :=
  { d with comment := Comment.usage (Operation.endpointsFor name operations) ++ d.comment }

/-- The declarations of the closed choices. -/
def enumDeclarations (doc : Document) : List Declaration :=
  doc.definitions.filterMap fun definition =>
    (definition.2.enumDeclaration? definition.1).map (withUsage doc.operations definition.1)

/-- The declarations of the combinations and objects. -/
def typeDeclarations (qualifier : String) (doc : Document) : List Declaration :=
  doc.definitions.filterMap fun definition =>
    (definition.2.typeDeclaration? qualifier definition.1).map (withUsage doc.operations definition.1)

/-- The declarations of the schemas. -/
def schemaDeclarations (qualifier : String) (doc : Document) : List Declaration :=
  enumDeclarations doc ++ typeDeclarations qualifier doc

/-- The names of the schemas that are not taken up. -/
def skippedNames (doc : Document) : List String :=
  (doc.definitions.filter fun definition => !definition.2.isTakenUp).map Prod.fst

/-! ## The whole module -/

/-- All that is made of a document. -/
def ofDocument (qualifier : String) (doc : Document) : Generated where
  schemas := schemaDeclarations qualifier doc
  requests :=
    (Operation.requestDeclarations qualifier doc.operations
      (((schemaDeclarations qualifier doc).map Declaration.name).foldl Registry.reserve ∅)).1
  skipped := skippedNames doc

/-- All that is made of the document that a value describes. -/
def ofValue (qualifier : String) (document : Value) : Except DocumentError Generated :=
  (Document.ofValue document).map (ofDocument qualifier)

/-- The declarations in the order in which they are written. -/
def declarations (g : Generated) : List Declaration :=
  g.schemas ++ g.requests

/-- The warning about a schema that is skipped. -/
def warning (name : String) : String :=
  "Skipped schema '" ++ name ++ "': not an enum, object or composite schema"

/-- The warnings about the schemas that are skipped. -/
def warnings (g : Generated) : List String :=
  g.skipped.map warning

/-- The text of the module. -/
def render (g : Generated) : String :=
  Declaration.renderAll g.declarations

end Generated

end ApiTypes
