import Pipewright.Lint.Cycle
import Pipewright.Text.Blank

/-!
# Structural issues of a pipeline

A document is rendered from any pipeline; the issues listed here are those for which the service
would refuse it once it is committed. Each job is looked at in authoring order, first for its own
name and those of its steps, then for the jobs it needs; a dependency cycle comes last.
-/
namespace Pipewright

/-- A structural issue of a pipeline; positions count from one. -/
inductive Issue where
  /-- A job has a blank name. -/
  | emptyJobName (position : Nat)
  /-- A job has the name of an earlier one. -/
  | duplicateJob (job : String)
  /-- A job needs a name that no job has. -/
  | unknownNeed (job need : String)
  /-- A job needs itself. -/
  | selfDependency (job : String)
  /-- Jobs need each other in a circle. -/
  | dependencyCycle (path : List String)
  /-- A step of a job has a blank name. -/
  | emptyStepName (job : String) (position : Nat)
  deriving DecidableEq

/-- The wording of an issue. -/
def Issue.message : Issue → String
  | emptyJobName position => "job #" ++ toString position ++ " has no name"
  | duplicateJob job => "job '" ++ job ++ "' is defined more than once"
  | unknownNeed job need =>
    "job '" ++ job ++ "' needs '" ++ need ++ "', which is not defined in this pipeline"
  | selfDependency job => "job '" ++ job ++ "' depends on itself"
  | dependencyCycle path => "jobs form a dependency cycle: " ++ String.intercalate " -> " path
  | emptyStepName job position =>
    "step #" ++ toString position ++ " of job '" ++ job ++ "' has no name"

namespace Lint

/-- The issues of step names, the first of the steps having a position. -/
def stepNameIssues (job : String) (position : Nat) : List Step → List Issue
  | [] => []
  | s :: steps =>
    (if isBlank s.name then [Issue.emptyStepName job position] else [])
      ++ stepNameIssues job (position + 1) steps

/-- The issue of a job's own name at a position, after jobs with given names. -/
def jobNameIssue (seen : List String) (position : Nat) (name : String) : List Issue :=
  if isBlank name then [.emptyJobName position]
  else if name ∈ seen then [.duplicateJob name]
  else []

/-- The issues of names, the first of the jobs having a position and coming after jobs with given
names. -/
def nameIssues (seen : List String) (position : Nat) : List Job → List Issue
  | [] => []
  | j :: jobs =>
    jobNameIssue seen position j.name ++ stepNameIssues j.name 1 j.steps
      ++ nameIssues (j.name :: seen) (position + 1) jobs

/-- The names that a need may refer to. -/
def definedNames (jobs : List Job) : List String :=
  (jobs.map Job.name).filter fun name => !isBlank name

/-- The issue of one need of a job. -/
def needIssue (defined : List String) (job need : String) : List Issue :=
  if need = job then [.selfDependency job]
  else if need ∈ defined then []
  else [.unknownNeed job need]

/-- The issues of what jobs need. -/
def needIssues (defined : List String) (jobs : List Job) : List Issue :=
  jobs.flatMap fun j => j.needs.flatMap (needIssue defined j.name)

/-- The issue of a dependency cycle. -/
def cycleIssues (jobs : List Job) : List Issue :=
  (findCycle jobs).toList.map Issue.dependencyCycle

end Lint

/-- All issues of a pipeline. -/
def Pipeline.issues (p : Pipeline) : List Issue :=
  Lint.nameIssues [] 1 p.jobs ++ Lint.needIssues (Lint.definedNames p.jobs) p.jobs
    ++ Lint.cycleIssues p.jobs

end Pipewright
