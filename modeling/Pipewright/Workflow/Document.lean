import Pipewright.Workflow.Basic
import Pipewright.Workflow.Scalar

/-!
# Workflow documents

The document of a workflow is a list of lines. A line is an indentation and parts: fixed text,
scalars, quoted texts and flow lists. Only the fixed text comes from here, and no part holds a line
end, so the lines of a document are those of this list.
-/
namespace Pipewright

/-- A part of a line. -/
inductive LinePart where
  /-- Text that is the same for all workflows. -/
  | fixed (text : String)
  /-- A name, bare or quoted. -/
  | scalar (text : String)
  /-- A quoted text. -/
  | quoted (text : String)
  /-- A list of names. -/
  | flow (items : List String)
  deriving DecidableEq

/-- The characters of a part. -/
def LinePart.chars : LinePart → List Char
  | fixed text => text.toList
  | scalar text => Scalar.scalar text
  | quoted text => Scalar.quoted text
  | flow items => Scalar.flow items

/-- A line of a document. -/
structure DocumentLine where
  /-- The levels it is indented by. -/
  depth : Nat
  /-- Its parts in order, none in a blank line. -/
  parts : List LinePart
  deriving DecidableEq

namespace DocumentLine

/-- A blank line. -/
def blank : DocumentLine := ⟨0, []⟩

/-- The characters of a line with its line end; a level is two spaces. -/
def chars (line : DocumentLine) : List Char :=
  List.replicate (2 * line.depth) ' ' ++ line.parts.flatMap LinePart.chars ++ ['\n']

end DocumentLine

/-- A truth value as a word. -/
def boolText (b : Bool) : String := if b then "true" else "false"

/-- The lines of an event. -/
def Event.lines : Event → List DocumentLine
  | push branches => limited "push" branches
  | pullRequest branches => limited "pull_request" branches
  | schedule crons =>
    ⟨1, [.fixed "schedule:"]⟩ :: crons.map fun cron => ⟨2, [.fixed "- cron: ", .quoted cron]⟩
  | workflowDispatch => [⟨1, [.fixed "workflow_dispatch: \x7b\x7d"]⟩]
where
  /-- The lines of an event that may be limited to branches. -/
  limited (name : String) (branches : List String) : List DocumentLine :=
    if branches.isEmpty then [⟨1, [.fixed (name ++ ": \x7b\x7d")]⟩]
    else [⟨1, [.fixed (name ++ ":")]⟩, ⟨2, [.fixed "branches: ", .flow branches]⟩]

/-- The lines of a step. -/
def WorkflowStep.lines (s : WorkflowStep) : List DocumentLine :=
  ⟨3, [.fixed "- name: ", .scalar s.name]⟩ ::
    if s.inputs.isEmpty then []
    else
      ⟨4, [.fixed "with:"]⟩ ::
        s.inputs.map fun (key, value) => ⟨5, [.scalar key, .fixed ": ", .quoted value]⟩

/-- The lines of a job. -/
def WorkflowJob.lines (j : WorkflowJob) : List DocumentLine :=
  [⟨1, [.scalar j.name, .fixed ":"]⟩,
    ⟨2, [.fixed "description: ", .quoted j.description]⟩,
    ⟨2, [.fixed ("continue-on-error: " ++ boolText j.continueOnError)]⟩]
  ++ j.condition.toList.map (fun condition => ⟨2, [.fixed "if: ", .quoted condition]⟩)
  ++ (if j.steps.isEmpty then [⟨2, [.fixed "steps: []"]⟩]
      else ⟨2, [.fixed "steps:"]⟩ :: j.steps.flatMap WorkflowStep.lines)
  ++ (if j.needs.isEmpty then [] else [⟨2, [.fixed "needs: ", .flow j.needs]⟩])

namespace Workflow

/-- The lines of a section: its heading alone when it is empty, else its heading and entries. -/
def outlined (name : String) (entries : List DocumentLine) : List DocumentLine :=
  if entries.isEmpty then [⟨0, [.fixed (name ++ ": \x7b\x7d")]⟩]
  else ⟨0, [.fixed (name ++ ":")]⟩ :: entries

/-- The lines of a workflow's document. -/
def lines (w : Workflow) : List DocumentLine :=
  [⟨0, [.fixed "name: ", .scalar w.name]⟩,
    ⟨0, [.fixed ("concurrent: " ++ boolText w.concurrent)]⟩, .blank]
  ++ outlined "on" (w.events.flatMap Event.lines) ++ [.blank]
  ++ outlined "jobs" (w.jobs.flatMap WorkflowJob.lines) ++ [.blank]
  ++ outlined "env" (w.env.map fun (key, value) => ⟨1, [.scalar key, .fixed ": ", .quoted value]⟩)

/-- The characters of a workflow's document. -/
def chars (w : Workflow) : List Char := w.lines.flatMap DocumentLine.chars

/-- The document of a workflow. -/
def document (w : Workflow) : String := String.ofList w.chars

end Workflow

/-- The document of a pipeline; without one, that of an empty pipeline with the default name. -/
def Pipeline.document (p : Option Pipeline) : String :=
  (Workflow.ofPipeline (p.getD ⟨"default_pipeline", false, []⟩)).document

end Pipewright
