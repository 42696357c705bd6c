/-
# The program

Looks up in the file system what the files named on the command line and the directories above them hold, runs the command
line on that tree, and carries out the changes it asks for.

The tree is one whose root is the working directory.  So the files have to lie below the working directory; they may also be
named by absolute paths, if both are, and then the tree is that of the whole system.
-/
import ApiTypes.CommandLine.Session

namespace ApiTypes.Program

/-! ## The tree -/

/-- The code of the system for a file that turns out to be a directory. -/
def isDirectoryCode : UInt32 := 21

/-- What the file system holds at a path; a path that leads through a file leads to nothing. -/
def probe (path : String) : IO (Option FileNode) := do
  try
    let content ← IO.FS.readBinFile path
    pure (some (.file content.toList))
  catch e =>
    match e with
    | .noFileOrDirectory .. => pure none
    | .inappropriateType _ code _ => pure (if code = isDirectoryCode then some .directory else none)
    | e => throw e

/-- Adds what the file system holds at a path and at the paths above it. -/
def addPath (tree : FileTree) (path : Path) : IO FileTree :=
  (List.range path.parts.length).foldlM (fun tree n => do
    let above : Path := ⟨path.parts.take (n + 1)⟩
    if above.place = [] || above.hasNull then pure tree
    else
      match ← probe above.text with
      | some node => pure (tree.put above.place node)
      | none => pure tree) tree

/-! ## The root -/

/-- Whether parts never lead above where they start, `depth` names being passed already. -/
def staysBelow (depth : Nat) : List String → Bool
  | [] => true
  | part :: rest =>
    if part = ".." then 0 < depth && staysBelow (depth - 1) rest
    else part ≠ "/" && staysBelow (depth + 1) rest

/-- The directory that the root of the tree stands for: that of the system or the working directory, whose name is left
out.  There is none if a path leads out of the working directory. -/
def rootFor (input output : Path) : Option String :=
  if input.parts.head? = some "/" && output.parts.head? = some "/" then some "/"
  else if staysBelow 0 input.parts && staysBelow 0 output.parts then some ""
  else none

/-! ## Running -/

/-- Carries out a change. -/
def carryOut (root : String) (change : Place × FileNode) : IO Unit :=
  let path := root ++ FileTree.placeText change.1
  match change.2 with
  | .directory => IO.FS.createDir path
  | .file content => IO.FS.writeBinFile path ⟨content.toArray⟩

/-- Runs the command line on a tree whose root is the given directory. -/
def runAt (root : String) (arguments : List String) (tree : FileTree) : IO UInt32 := do
  let (outcome, changed) := CommandLine.run arguments tree
  (FileTree.changesSince tree changed).forM (carryOut root)
  IO.eprint outcome.errors
  IO.print outcome.output
  pure (UInt32.ofNat outcome.code)

/-- Runs the program. -/
def runOn (arguments : List String) : IO UInt32 := do
  match CommandLine.parse arguments with
  | .error _ => runAt "" arguments ⟨[]⟩
  | .ok request =>
    match rootFor request.job.input request.job.output with
    | none => throw (IO.userError "the files must lie below the working directory, or both paths be absolute")
    | some root =>
      let tree ← addPath ⟨[]⟩ request.job.input
      runAt root arguments (← addPath tree request.job.output)

end ApiTypes.Program

/-- The entry point of the program. -/
def main (arguments : List String) : IO UInt32 :=
  ApiTypes.Program.runOn arguments
