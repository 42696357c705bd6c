/-
# Loading a document

A document is read from a file as YAML or as JSON, as its name says.  Its text is UTF-8, its line ends are unified, and its
value has to be a mapping.

How YAML is read and which documents are valid is not for the program to say: it takes both from libraries.  What it does is
described for any of them (`Libraries`), and for those of this project as the standard ones.
-/
import ApiTypes.Document.Validation
import ApiTypes.Files.Tree
import ApiTypes.Json.Reader
import ApiTypes.Text.Utf8
import ApiTypes.Value.Spelling
import ApiTypes.Yaml.Reader

namespace ApiTypes

/-! ## Libraries -/

/-- Why the content of a file is no YAML: it is no text, or the text is at fault. -/
inductive Yaml.FileError
  | encoding (fault : Text.Utf8Fault)
  | content (error : Yaml.Error)
  deriving DecidableEq

/-- The size of the blocks in which a YAML file is read; a JSON file is read whole. -/
def yamlBlockSize : Nat := 8192

/-- The value that the content of a YAML file writes. -/
def Yaml.readFile (content : List UInt8) : Except Yaml.FileError Value :=
  match Text.decodeUtf8Blocks yamlBlockSize content with
  | .error fault => .error (.encoding fault)
  | .ok text => (Yaml.read (Text.unifyLineEnds text)).mapError .content

/-- What the program takes from elsewhere: a reader of YAML files and a check of documents. -/
structure Libraries where
  readYaml : List UInt8 → Except Yaml.FileError Value
  isValid : Value → Bool

/-- The reader and the check of this project. -/
def Libraries.standard : Libraries := ⟨Yaml.readFile, Validation.isValid⟩

/-! ## Errors -/

/-- Why a document was not loaded. -/
inductive LoadError
  | missing (path : Path)
  | encoding (path : Path) (fault : Text.Utf8Fault)
  | json (path : Path) (error : Json.Error)
  | yaml (path : Path) (fault : Yaml.Fault)
  | datum (fault : Yaml.DatumFault)
  | unsupported (path : Path) (what : Unsupported)
  | notMapping (kind : String)
  | invalid (path : Path)
  deriving DecidableEq

/-- The message of an error; what is wrong with YAML text, or with a document that is not valid, is not spelled out. -/
def LoadError.message : LoadError → String
  | missing path => "Input file '" ++ path.text ++ "' does not exist"
  | encoding path fault => "Failed to decode document " ++ path.text ++ ": " ++ fault.message
  | json path error => "Failed to parse JSON in " ++ path.text ++ ": " ++ error.message
  | yaml path _ => "Failed to parse YAML in " ++ path.text ++ ": ..."
  | datum fault => fault.message
  | unsupported path _ => "Document " ++ path.text ++ " holds what no value can hold"
  | notMapping kind => "Document must deserialize to a mapping, got <class '" ++ kind ++ "'>"
  | invalid path => "OpenAPI schema validation failed for " ++ path.text ++ ": ..."

namespace LoadError

/-- An error in a YAML file. -/
def ofYaml (path : Path) : Yaml.FileError → LoadError
  | .encoding fault => .encoding path fault
  | .content (.malformed fault) => .yaml path fault
  | .content (.datum fault) => .datum fault
  | .content (.unsupported what) => .unsupported path what

/-- An error in JSON text; a number with too many digits is a fault in a scalar here as well. -/
def ofJson (path : Path) (error : Json.Error) : LoadError :=
  match error.cause with
  | .longNumber digits => .datum (.digits digits)
  | .unsupported what => .unsupported path what
  | _ => .json path error

end LoadError

/-! ## Loading -/

/-- The value that the content of a file writes. -/
def Libraries.readContent (libraries : Libraries) (path : Path) (content : List UInt8) : Except LoadError Value :=
  if path.isYaml then (libraries.readYaml content).mapError (LoadError.ofYaml path)
  else
    match Text.decodeUtf8 content with
    | .error fault => .error (.encoding path fault)
    | .ok text => (Json.read (Text.unifyLineEnds text)).mapError (LoadError.ofJson path)

/-- The mapping that a file holds, read with the given libraries. -/
def FileTree.loadWith (libraries : Libraries) (tree : FileTree) (path : Path) : Except LoadError Entries :=
  match tree.content? path with
  | none => .error (.missing path)
  | some content =>
    match libraries.readContent path content with
    | .error e => .error e
    | .ok (.mapping entries) => .ok entries
    | .ok other => .error (.notMapping other.kindName)

/-- The mapping that a file holds. -/
def FileTree.loadDocument (tree : FileTree) (path : Path) : Except LoadError Entries :=
  tree.loadWith .standard path

end ApiTypes
