import Pipewright.Block.Read
import Pipewright.Command.Work
import Pipewright.Lint.Basic
import Pipewright.Text.Split
import Pipewright.Workflow.Document

/-!
# Block graphs and documents as files

Reading a block graph from a file, writing a document to one, and telling the issues between.
-/
namespace Pipewright.Work

/-- Whether a path stands for the standard input: a hyphen, with nothing after it that counts. -/
def isStandardInput (path : String) : Bool :=
  match splitAtChar '/' path.toList with
  | ['-'] :: rest => rest.all fun part => part == [] || part == ['.']
  | _ => false

/-- Reads a source from a file or the standard input. -/
def readSource (path : String) : Work String := do
  if isStandardInput path then withFile "Failed to read from stdin" (← deed .readInput)
  else withFile ("Failed to read " ++ path) (← deed (.readFile path))

/-- Reads the pipeline of a block graph. -/
def loadPipeline (path : String) : Work (Option Pipeline) := do
  let source ← readSource path
  match Pipeline.parse source with
  | .ok pipeline => pure pipeline
  | .error fault => throw ⟨path ++ " is not a valid block graph", some (fault.message source)⟩

/-- Writes a document to a file, or prints it. -/
def writeOutput (output : Option String) (document : String) : Work Unit := do
  match output with
  | some path => withFile ("Failed to write " ++ path) (← deed (.writeFile path document))
  | none => deed (.print document)

/-- The issues of a pipeline, if there is one. -/
def issuesOf (pipeline : Option Pipeline) : List Issue :=
  match pipeline with
  | some pipeline => pipeline.issues
  | none => []

/-- Tells issues under a label. -/
def tellIssues (label : String) : List Issue → Work Unit
  | [] => pure ()
  | issue :: issues => do
    note (label ++ " " ++ issue.message)
    tellIssues label issues

/-- The label of issues that do not matter. -/
def warningLabel (styled : Bool) : String := Style.boldYellow.paint styled "warning:"

/-- The label of issues that matter. -/
def errorLabel (styled : Bool) : String := Style.boldRed.paint styled "error:"

/-- Reads a block graph, tells its issues and writes its document. -/
def render (styled : Bool) (input : String) (output : Option String) : Work Unit := do
  let pipeline ← loadPipeline input
  tellIssues (warningLabel styled) (issuesOf pipeline)
  writeOutput output (Pipeline.document pipeline)

end Pipewright.Work
