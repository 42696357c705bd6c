/-
# Documents

A document describes an interface over HTTP: named schemas, and operations with their parameters, the body of the
request and the bodies of the responses.

`Document.ofValue` reads a document from a value.  It needs the named schemas; whatever else has not the expected shape is
left out.
-/
import ApiTypes.Schema.Reading
import ApiTypes.Text.UpperCase

namespace ApiTypes

/-- A parameter of an operation. -/
structure Parameter where
  name : String
  location : String
  required : Bool
  schema : Option Schema
  description : Option String

/-- One method of one path, as spelled in the document. -/
structure Operation where
  path : String
  method : String
  summary : Option String
  parameters : List Parameter
  body : Option Schema
  responses : List Schema

/-- A document: its named schemas and its operations, both in order. -/
structure Document where
  definitions : List (String × Schema)
  operations : List Operation

/-- Why a value is no document. -/
inductive DocumentError
  | missingSchemas
  deriving DecidableEq

/-- The message of an error. -/
def DocumentError.message : DocumentError → String
  | missingSchemas => "Invalid schema: Missing components.schemas"

/-! ## Reading the parts -/

/-- The value under a text key of a mapping. -/
def Value.field? (name : String) : Value → Option Value
  | mapping entries => lookup name entries
  | _ => none

/-- The schema that a mapping describes; other values describe none. -/
def Schema.ofMapping? : Value → Option Schema
  | .mapping entries => some (Schema.ofValue (.mapping entries))
  | _ => none

/-- The schema of a body in the format that is looked at, `application/json`. -/
def Schema.ofContent? (value : Value) : Option Schema :=
  (((value.field? "content").bind (Value.field? "application/json")).bind (Value.field? "schema")).bind
    Schema.ofMapping?

/-- A parameter: a mapping with a name and a location. -/
def Parameter.ofValue? : Value → Option Parameter
  | .mapping entries =>
    match Value.lookup "name" entries, Value.lookup "in" entries with
    | some (.scalar (.text name)), some (.scalar (.text location)) =>
      some
        { name := name
          location := location
          required := ((Value.lookup "required" entries).map Value.isTruthy).getD false
          schema := (Value.lookup "schema" entries).bind Schema.ofMapping?
          description := Value.nonemptyText? "description" entries }
    | _, _ => none
  | _ => none

namespace Operation

/-- The methods that make an operation. -/
def methods : List String :=
  ["get", "put", "post", "delete", "patch", "head", "options", "trace"]

/-- Whether a key of a path names a method, in capital or small letters. -/
def isMethod (key : String) : Bool :=
  methods.contains (Text.lowerAscii key)

/-- The operation that a mapping describes. -/
def ofEntries (path method : String) (entries : Entries) : Operation where
  path := path
  method := method
  summary := Value.nonemptyText? "summary" entries
  parameters := ((Value.lookup "parameters" entries).bind Value.items?).elim [] fun items =>
    items.filterMap Parameter.ofValue?
  body := (Value.lookup "requestBody" entries).bind Schema.ofContent?
  responses := ((Value.lookup "responses" entries).bind Value.entries?).elim [] fun responses =>
    responses.filterMap fun response => Schema.ofContent? response.2

/-- The operation of one entry under a path, if its key names a method and a mapping stands there. -/
def ofMethod? (path : String) : Scalar × Value → Option Operation
  | (.text method, .mapping entries) => if isMethod method then some (ofEntries path method entries) else none
  | _ => none

/-- The operations of one path. -/
def ofPath : Scalar × Value → List Operation
  | (.text path, .mapping methods) => methods.filterMap (ofMethod? path)
  | _ => []

/-- The operations of all paths, in path-then-method order. -/
def ofPaths : Value → List Operation
  | .mapping paths => paths.flatMap ofPath
  | _ => []

/-- The operations of the paths of a document. -/
def ofDocument (document : Value) : List Operation :=
  (document.field? "paths").elim [] ofPaths

end Operation

/-! ## Reading a document -/

namespace Document

/-- The mapping of named schemas. -/
def schemasIn (document : Value) : Option Entries :=
  ((document.field? "components").bind (Value.field? "schemas")).bind Value.entries?

/-- The document that a value describes. -/
def ofValue (document : Value) : Except DocumentError Document :=
  match schemasIn document with
  | none => .error .missingSchemas
  | some schemas => .ok
      { definitions := schemas.map fun entry => (entry.1.spelling, Schema.ofDefinition entry.2)
        operations := Operation.ofDocument document }

end Document

end ApiTypes
