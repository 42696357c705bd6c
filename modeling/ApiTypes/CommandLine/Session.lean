/-
# The command line program

What the program prints, and what becomes of the files.  A job that succeeds prints its warnings and names the file it
wrote; one that fails prints the reason on the error stream and ends with code 1; words that are in error are answered by
the usage and code 2.
-/
import ApiTypes.CommandLine.Arguments
import ApiTypes.Run

namespace ApiTypes.CommandLine

/-- What a program leaves behind: its exit code and its two streams. -/
structure Outcome where
  code : Nat
  output : String
  errors : String
  deriving DecidableEq

/-! ## Texts -/

/-- The name of the program. -/
def programName : String := "openapi-to-typescript-generator"

/-- The version of the program. -/
def programVersion : String := "1.0.0"

/-- Lines of a stream. -/
def lines (texts : List String) : String :=
  String.join (texts.map fun text => text ++ "\n")

/-- How the program is called. -/
def usage : String :=
  lines
    [ "usage: openapi-to-typescript-generator [-h] [-p PREFIX] [--validate]",
      "                                       [--verbose] [--version]",
      "                                       input_file output_file" ]

/-- What the program is for, and what its words and options mean. -/
def help : String :=
  usage ++ lines
    [ "",
      "Convert OpenAPI schema definitions to TypeScript type definitions",
      "",
      "positional arguments:",
      "  input_file            Path to the OpenAPI schema JSON file",
      "  output_file           Path where the TypeScript definitions will be written",
      "",
      "options:",
      "  -h, --help            show this help message and exit",
      "  -p PREFIX, --prefix PREFIX",
      "                        Prefix to add to all referenced type names",
      "  --validate            Validate the input against the OpenAPI 3 object model",
      "                        before generating",
      "  --verbose             Enable debug logging",
      "  --version             show program's version number and exit" ]

/-- A line of the log. -/
def logLine (text : String) : String :=
  "DEBUG openapi_to_typescript_generator.generator: " ++ text

/-- The log of a generation: the schemas that were skipped and the number of declarations. -/
def log (g : Generated) : List String :=
  g.skipped.map (fun name => logLine ("Skipping schema " ++ Text.quoted name ++ " decoded as UnstructuredType"))
    ++ [logLine ("Generated " ++ g.schemas.length.repr ++ " schema declarations and " ++ g.requests.length.repr
      ++ " request declarations")]

/-! ## Running -/

/-- The job that is asked for. -/
def Request.job (r : Request) : Job :=
  { input := Path.ofText r.input, output := Path.ofText r.output, qualifier := r.qualifier, validate := r.validate }

/-- The log that a request asks for. -/
def Request.log (r : Request) (g : Generated) : List String :=
  if r.verbose then CommandLine.log g else []

/-- The line about an error; one that was not to be expected stands alone. -/
def errorLine (e : RunError) : String :=
  if e.isExpected then "Error: " ++ e.message else e.message

/-- Does what is asked for with the given libraries. -/
def Request.runWith (libraries : Libraries) (r : Request) (tree : FileTree) : Outcome × FileTree :=
  match r.job.generateWith libraries tree with
  | .error e => (⟨1, "", lines [errorLine e]⟩, tree)
  | .ok g =>
    match r.job.write g tree with
    | (.ok report, written) =>
      (⟨0, lines (report.warnings.map ("Warning: " ++ ·) ++ ["TypeScript types written to " ++ report.output.text]),
        lines (r.log g)⟩, written)
    | (.error e, changed) => (⟨1, "", lines (r.log g ++ [errorLine e])⟩, changed)

/-- Does what is asked for. -/
def Request.run (r : Request) (tree : FileTree) : Outcome × FileTree :=
  r.runWith .standard tree

/-- Answers a command line that asks for no job. -/
def Stop.outcome : Stop → Outcome
  | help => ⟨0, CommandLine.help, ""⟩
  | version => ⟨0, programName ++ " " ++ programVersion ++ "\n", ""⟩
  | usage message => ⟨2, "", CommandLine.usage ++ programName ++ ": error: " ++ message ++ "\n"⟩

/-- Runs the program on the words of a command line and a tree of files. -/
def run (arguments : List String) (tree : FileTree) : Outcome × FileTree :=
  match parse arguments with
  | .ok request => request.run tree
  | .error stop => (stop.outcome, tree)

end ApiTypes.CommandLine
