/-
# Type expressions

The type of a schema: of the schema only that part is kept which the type shows.  Whole and other numbers are one
type, descriptions and comments are gone, and what no type can express is `any`.

`Schema.typeExpr` reads the type off a schema.  A property of an object is required exactly when the object's own set of
required names holds it.
-/
import ApiTypes.Name.Basic
import ApiTypes.Schema.Basic

namespace ApiTypes

/-- A type: one of the built-in ones, a declared name, a choice of literals, a list, or an object type that lists name,
requiredness and type of each field. -/
inductive TypeExpr
  | any
  | string
  | number
  | boolean
  | openRecord
  | named (name : String)
  | literals (variants : List String)
  | array (item : TypeExpr)
  | object (fields : List (String × Bool × TypeExpr))

/-- The type of a single datum. -/
def PrimitiveKind.typeExpr : PrimitiveKind → TypeExpr
  | string => .string
  | integer => .number
  | number => .number
  | boolean => .boolean

namespace Schema

mutual

/-- The type of a schema. -/
def typeExpr : Schema → TypeExpr
  | reference pointer _ => .named (Name.cleanName (Name.lastSegment pointer))
  | array items _ => .array (typeExpr items)
  | enumeration variants _ _ => .literals variants
  | openObject _ _ => .openRecord
  | object properties required _ => .object (fieldTypes required properties)
  | primitive kind _ => kind.typeExpr
  | composite _ _ _ => .any
  | unstructured _ => .any

/-- The fields of an object type: each property with its requiredness. -/
def fieldTypes (required : NameSet) : List (String × Schema) → List (String × Bool × TypeExpr)
  | [] => []
  | (name, schema) :: rest => (name, decide (name ∈ required), typeExpr schema) :: fieldTypes required rest

end

end Schema

end ApiTypes
