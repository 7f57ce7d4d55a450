import Pipewright.Block.Basic

/-!
# Workflows

A workflow is what a pipeline says to the service that runs it: its name, the events that start
it, its jobs with their steps, and its variables. Triggers of one kind make one event, in the
order in which the kinds first occur: their branches are united, each once, and their times are
kept in order. A trigger of no known kind says nothing, nor does a schedule without a time.
-/
namespace Pipewright

/-- An event that starts a workflow. -/
inductive Event where
  /-- A push to one of the branches, or to any branch if there are none. -/
  | push (branches : List String)
  /-- A pull request against one of the branches, or against any branch if there are none. -/
  | pullRequest (branches : List String)
  /-- Any of the times of a schedule. -/
  | schedule (crons : List String)
  /-- A start by hand. -/
  | workflowDispatch
  deriving DecidableEq

/-- A step of a job with all its inputs. -/
structure WorkflowStep where
  /-- Its name. -/
  name : String
  /-- Its inputs in order. -/
  inputs : List (String × String)
  deriving DecidableEq

/-- A job of a workflow. -/
structure WorkflowJob where
  /-- Its name. -/
  name : String
  /-- What it is for. -/
  description : String
  /-- Whether its failure is passed over. -/
  continueOnError : Bool
  /-- The condition on which it runs. -/
  condition : Option String
  /-- Its steps in order. -/
  steps : List WorkflowStep
  /-- The names of the jobs it waits for. -/
  needs : List String
  deriving DecidableEq

/-- A workflow. -/
structure Workflow where
  /-- Its name. -/
  name : String
  /-- Whether its runs may overlap. -/
  concurrent : Bool
  /-- The events that start it. -/
  events : List Event
  /-- Its jobs in order. -/
  jobs : List WorkflowJob
  /-- Its variables in order. -/
  env : List (String × String)
  deriving DecidableEq

/-- The triggers of one kind taken together. -/
structure TriggerGroup where
  /-- Their kind. -/
  kind : EventKind
  /-- Their branches, each once, in order of first occurrence. -/
  branches : List String
  /-- Their times in order. -/
  crons : List String
  deriving DecidableEq

namespace TriggerGroup

/-- Adds the items that are not there yet, in order. -/
def unite (items : List String) : List String → List String
  | [] => items
  | item :: more => unite (if item ∈ items then items else items ++ [item]) more

/-- A group with nothing in it. -/
def empty (kind : EventKind) : TriggerGroup := ⟨kind, [], []⟩

/-- The group with one more trigger. -/
def push (group : TriggerGroup) (t : Trigger) : TriggerGroup :=
  ⟨group.kind, unite group.branches t.branches, group.crons ++ t.cron.toList⟩

/-- Puts a trigger into the group of its kind, which is made at the end if there is none. -/
def insert (kind : EventKind) (t : Trigger) : List TriggerGroup → List TriggerGroup
  | [] => [(empty kind).push t]
  | group :: groups =>
    if group.kind = kind then group.push t :: groups else group :: insert kind t groups

/-- The groups with more triggers put in, in order. -/
def insertAll (groups : List TriggerGroup) : List Trigger → List TriggerGroup
  | [] => groups
  | t :: triggers =>
    match t.kind? with
    | some kind => insertAll (insert kind t groups) triggers
    | none => insertAll groups triggers

/-- Whether a group says anything. -/
def isHeard (group : TriggerGroup) : Bool := group.kind != .schedule || !group.crons.isEmpty

/-- The groups of some triggers. -/
def ofTriggers (triggers : List Trigger) : List TriggerGroup :=
  (insertAll [] triggers).filter isHeard

/-- The event of a group. -/
def event (group : TriggerGroup) : Event :=
  match group.kind with
  | .push => .push group.branches
  | .pullRequest => .pullRequest group.branches
  | .schedule => .schedule group.crons
  | .workflowDispatch => .workflowDispatch

end TriggerGroup

/-- A step with its arguments as an input of their own, before the others. -/
def WorkflowStep.ofStep (s : Step) : WorkflowStep :=
  ⟨s.name,
    s.args.toList.map (fun args => ("args", args)) ++ s.inputs.map (fun i => (i.key, i.value))⟩

/-- What a job says. -/
def WorkflowJob.ofJob (j : Job) : WorkflowJob :=
  ⟨j.name, j.description, j.continueOnError, j.condition, j.steps.map WorkflowStep.ofStep, j.needs⟩

/-- What a pipeline says. -/
def Workflow.ofPipeline (p : Pipeline) : Workflow where
  name := p.name
  concurrent := p.concurrent
  events := (TriggerGroup.ofTriggers p.triggers).map TriggerGroup.event
  jobs := p.jobs.map WorkflowJob.ofJob
  env := p.env.map fun v => (v.key, v.value)

end Pipewright
