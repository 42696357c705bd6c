/-
# A run

From a document file to a module file.  A run loads the document, validates it if that is asked for, generates the module
and writes it; the first step that fails ends the run, and only the last step changes the tree of files.  Loading and
validating go by the libraries that a run is given.
-/
import ApiTypes.Files.Input
import ApiTypes.Files.Output
import ApiTypes.Generation.Basic

namespace ApiTypes

/-- What a run is asked to do. -/
structure Job where
  input : Path
  output : Path
  qualifier : String
  validate : Bool

/-- What a run reports. -/
structure Report where
  output : Path
  declarationCount : Nat
  warnings : List String
  deriving DecidableEq

/-- Why a run failed. -/
inductive RunError
  | load (error : LoadError)
  | document (error : DocumentError)
  | write (error : WriteError)
  deriving DecidableEq

/-- The message of an error. -/
def RunError.message : RunError → String
  | load error => error.message
  | document error => error.message
  | write error => error.message

/-- Whether an error is one of those that a user has to expect: the document cannot be loaded or used, or the output not be
written.  The others are faults of single data that no step looks for, and data that no value holds. -/
def RunError.isExpected : RunError → Bool
  | load (.datum _) => false
  | load (.unsupported _ _) => false
  | write .nullByte => false
  | _ => true

/-- Checks a loaded document, if that is asked for. -/
def Libraries.validated (libraries : Libraries) (wanted : Bool) (path : Path) (entries : Entries) :
    Except LoadError Entries :=
  if wanted && !libraries.isValid (.mapping entries) then .error (.invalid path) else .ok entries

namespace Job

/-- The module made of the input file with the given libraries. -/
def generateWith (libraries : Libraries) (job : Job) (tree : FileTree) : Except RunError Generated :=
  match tree.loadWith libraries job.input with
  | .error e => .error (.load e)
  | .ok entries =>
    match libraries.validated job.validate job.input entries with
    | .error e => .error (.load e)
    | .ok entries => (Generated.ofValue job.qualifier (.mapping entries)).mapError .document

/-- The module made of the input file. -/
def generate (job : Job) (tree : FileTree) : Except RunError Generated :=
  job.generateWith .standard tree

/-- What is reported of a module that was written. -/
def report (job : Job) (g : Generated) : Report :=
  ⟨job.output, g.declarations.length, g.warnings⟩

/-- Writes a module to the output file. -/
def write (job : Job) (g : Generated) (tree : FileTree) : Except RunError Report × FileTree :=
  match tree.writeOutput job.output g.render with
  | (.ok (), written) => (.ok (job.report g), written)
  | (.error e, changed) => (.error (.write e), changed)

/-- Runs the job on a tree of files with the given libraries. -/
def runWith (libraries : Libraries) (job : Job) (tree : FileTree) : Except RunError Report × FileTree :=
  match job.generateWith libraries tree with
  | .error e => (.error e, tree)
  | .ok g => job.write g tree

/-- Runs the job on a tree of files. -/
def run (job : Job) (tree : FileTree) : Except RunError Report × FileTree :=
  job.runWith .standard tree

end Job

end ApiTypes
