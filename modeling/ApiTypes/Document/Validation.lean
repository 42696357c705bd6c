/-
# Validating documents

The rules that a document must follow to be taken for an OpenAPI document of the third generation: its version, its title,
and the shape of its operations.  Keys of mappings are texts; keys that no rule mentions are allowed.  Instead of a
parameter, a response or a request body a pointer may stand.
-/
import ApiTypes.Document.Basic
import ApiTypes.Text.Numeral
import ApiTypes.Text.Split

namespace ApiTypes.Validation

/-! ## Shapes -/

/-- Whether a value is a mapping with texts as keys that satisfies a test. -/
def isObject (test : Entries → Bool) : Value → Bool
  | .mapping entries => entries.all (fun entry => entry.1 matches .text _) && test entries
  | _ => false

/-- Whether a value is a text. -/
def isText (value : Value) : Bool := value.text?.isSome

/-- Whether a value is null. -/
def isNull : Value → Bool
  | .scalar .null => true
  | _ => false

/-- Whether a value satisfying a test stands under a key. -/
def needs (name : String) (test : Value → Bool) (entries : Entries) : Bool :=
  (Value.lookup name entries).any test

/-- Whether under a key there is nothing, null, or a value satisfying a test. -/
def allows (name : String) (test : Value → Bool) (entries : Entries) : Bool :=
  (Value.lookup name entries).all fun value => isNull value || test value

/-- Whether a value is a list of values that satisfy a test. -/
def isListOf (test : Value → Bool) : Value → Bool
  | .list items => items.all test
  | _ => false

/-- Whether a value is a mapping to values that satisfy a test. -/
def isMapOf (test : Value → Bool) : Value → Bool :=
  isObject fun entries => entries.all fun entry => test entry.2

/-- Whether a value is a pointer, or an object that satisfies a test; an object with a key `$ref` can only be a pointer. -/
def isObjectOrPointer (test : Entries → Bool) : Value → Bool :=
  isObject fun entries =>
    match Value.lookup "$ref" entries with
    | some target => isText target
    | none => test entries

/-! ## Rules -/

/-- Whether a text is a version of the third generation: three parts, the first `3` and the second at most one. -/
def isVersion (text : String) : Bool :=
  match Text.splitOn '.' text.toList with
  | [first, second, _] => first = ['3'] && (Text.readInt? 10 second).any fun n => n ≤ 1
  | _ => false

/-- Whether a value is the title block of a document. -/
def isInfo : Value → Bool :=
  isObject fun entries => needs "title" isText entries && needs "version" isText entries

/-- The places where a parameter may stand. -/
def locations : List String := ["query", "path", "header", "cookie"]

/-- Whether a value is a parameter. -/
def isParameter : Value → Bool :=
  isObjectOrPointer fun entries =>
    needs "name" isText entries && needs "in" (fun value => value.text?.any locations.contains) entries

/-- Whether a value is a response. -/
def isResponse : Value → Bool :=
  isObjectOrPointer (needs "description" isText)

/-- Whether a value is a request body. -/
def isRequestBody : Value → Bool :=
  isObjectOrPointer (needs "content" (isObject fun _ => true))

/-- Whether a value is an operation. -/
def isOperation : Value → Bool :=
  isObject fun entries =>
    needs "responses" (isMapOf isResponse) entries && allows "parameters" (isListOf isParameter) entries
      && allows "requestBody" isRequestBody entries

/-- Whether a value is the block of one path. -/
def isPathItem : Value → Bool :=
  isObject fun entries =>
    Operation.methods.all (fun method => allows method isOperation entries)
      && allows "parameters" (isListOf isParameter) entries

/-- Whether a value is the block of reusable parts. -/
def isComponents : Value → Bool :=
  isObject (allows "schemas" (isObject fun _ => true))

/-- Whether a value is a valid document. -/
def isValid : Value → Bool :=
  isObject fun entries =>
    needs "openapi" (fun value => value.text?.any isVersion) entries && needs "info" isInfo entries
      && needs "paths" (isMapOf isPathItem) entries && allows "components" isComponents entries

end ApiTypes.Validation
