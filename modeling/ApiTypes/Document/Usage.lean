/-
# Where schemas are used

An operation uses a named schema when the body of one of its responses or of its request is a pointer to it.  Every such
place counts once.
-/
import ApiTypes.Declaration.Comment
import ApiTypes.Document.Basic

namespace ApiTypes

/-- The pointer to a named schema. -/
def Schema.pointerTo (name : String) : String :=
  "#/components/schemas/" ++ name

/-- Whether a schema is the given pointer. -/
def Schema.isReference (pointer : String) : Schema → Bool
  | reference target _ => target = pointer
  | _ => false

namespace Operation

/-- The bodies of an operation: those of the responses, then that of the request. -/
def bodies (op : Operation) : List Schema :=
  op.responses ++ op.body.toList

/-- The line that names an operation: method, path and summary. -/
def endpoint (op : Operation) : String :=
  Text.upper op.method ++ " " ++ op.path ++ " - " ++ op.summary.getD ""

/-- The operation's line, once for each of its bodies that is a pointer to the named schema. -/
def usesOf (name : String) (op : Operation) : List String :=
  (op.bodies.filter (Schema.isReference (Schema.pointerTo name))).map fun _ => op.endpoint

/-- The lines of the operations that use a named schema. -/
def endpointsFor (name : String) (operations : List Operation) : List String :=
  operations.flatMap (usesOf name)

end Operation

end ApiTypes
