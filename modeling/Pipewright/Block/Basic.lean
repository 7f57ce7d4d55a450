/-!
# Block graphs

The workspace of a visual editor is a tree of blocks. A pipeline holds jobs, triggers and
environment variables; a job holds steps. Any block may stand anywhere, and blocks of kinds nobody
knows stand among them, so what belongs where is a matter of the views: the jobs, triggers and
variables of a pipeline and the steps of a job are those directly inside it, in authoring order.
-/
namespace Pipewright

/-- An input that a step passes on. -/
structure StepInput where
  /-- Its name. -/
  key : String
  /-- Its value. -/
  value : String
  deriving DecidableEq

/-- A step of a job. -/
structure Step where
  /-- Its name. -/
  name : String := ""
  /-- Its arguments, passed on as an input of their own. -/
  args : Option String := none
  /-- Its other inputs. -/
  inputs : List StepInput := []
  deriving DecidableEq

/-- An event that starts a pipeline. -/
structure Trigger where
  /-- The name of the event as authored. -/
  event : String
  /-- The branches it is limited to, any branch if there are none. -/
  branches : List String := []
  /-- The times of a schedule. -/
  cron : Option String := none
  deriving DecidableEq

/-- An environment variable of a pipeline. -/
structure EnvVar where
  /-- Its name. -/
  key : String
  /-- Its value. -/
  value : String := ""
  deriving DecidableEq

/-- A block of a workspace. -/
inductive Block where
  /-- A pipeline: its name, whether runs may overlap, and its blocks. -/
  | pipeline (name : String) (concurrent : Bool) (children : List Block)
  /-- A job: its name, its description, whether its failure is passed over, the jobs it waits for,
  the condition on which it runs, and its blocks. -/
  | job (name description : String) (continueOnError : Bool) (needs : List String)
      (condition : Option String) (children : List Block)
  /-- A step. -/
  | step (step : Step)
  /-- A trigger. -/
  | trigger (trigger : Trigger)
  /-- An environment variable. -/
  | env (var : EnvVar)
  /-- A block of a kind that is not known here. -/
  | unknown

instance : Inhabited Block := ⟨.unknown⟩

/-- The root of a workspace. -/
structure Pipeline where
  /-- Its name. -/
  name : String := "default_pipeline"
  /-- Whether its runs may overlap. -/
  concurrent : Bool := false
  /-- Its blocks in authoring order. -/
  children : List Block := []

/-- A job with its blocks. -/
structure Job where
  /-- Its name. -/
  name : String := ""
  /-- What it is for. -/
  description : String := ""
  /-- Whether its failure is passed over. -/
  continueOnError : Bool := false
  /-- The names of the jobs it waits for. -/
  needs : List String := []
  /-- The condition on which it runs. -/
  condition : Option String := none
  /-- Its blocks in authoring order. -/
  children : List Block := []

namespace Block

/-- The job that a block is. -/
def job? : Block → Option Job
  | job name description continueOnError needs condition children =>
    some ⟨name, description, continueOnError, needs, condition, children⟩
  | _ => none

/-- The step that a block is. -/
def step? : Block → Option Step
  | step s => some s
  | _ => none

/-- The trigger that a block is. -/
def trigger? : Block → Option Trigger
  | trigger t => some t
  | _ => none

/-- The environment variable that a block is. -/
def env? : Block → Option EnvVar
  | env var => some var
  | _ => none

/-- The pipeline that a block is. -/
def pipeline? : Block → Option Pipeline
  | pipeline name concurrent children => some ⟨name, concurrent, children⟩
  | _ => none

end Block

/-- The pipeline as a block. -/
def Pipeline.toBlock (p : Pipeline) : Block := .pipeline p.name p.concurrent p.children

/-- The job as a block. -/
def Job.toBlock (j : Job) : Block :=
  .job j.name j.description j.continueOnError j.needs j.condition j.children

namespace Pipeline

/-- The jobs directly inside a pipeline, in authoring order. -/
def jobs (p : Pipeline) : List Job := p.children.filterMap Block.job?

/-- The triggers directly inside a pipeline, in authoring order. -/
def triggers (p : Pipeline) : List Trigger := p.children.filterMap Block.trigger?

/-- The environment variables directly inside a pipeline, in authoring order. -/
def env (p : Pipeline) : List EnvVar := p.children.filterMap Block.env?

end Pipeline

/-- The steps directly inside a job, in authoring order. -/
def Job.steps (j : Job) : List Step := j.children.filterMap Block.step?

/-- Whether a step passes on anything. -/
def Step.hasInputs (s : Step) : Bool := s.args.isSome || !s.inputs.isEmpty

/-- The kinds of event that start a workflow. -/
inductive EventKind where
  /-- A push to a branch. -/
  | push
  /-- A pull request against a branch. -/
  | pullRequest
  /-- A time of a schedule. -/
  | schedule
  /-- A start by hand. -/
  | workflowDispatch
  deriving DecidableEq

/-- The name of a kind of event. -/
def EventKind.name : EventKind → String
  | push => "push"
  | pullRequest => "pull_request"
  | schedule => "schedule"
  | workflowDispatch => "workflow_dispatch"

/-- The kind of event that a trigger names, a start by hand under either of its names. -/
def Trigger.kind? (t : Trigger) : Option EventKind :=
  if t.event = "push" then some .push
  else if t.event = "pull_request" then some .pullRequest
  else if t.event = "schedule" then some .schedule
  else if t.event = "workflow_dispatch" || t.event = "manual" then some .workflowDispatch
  else none

end Pipewright
