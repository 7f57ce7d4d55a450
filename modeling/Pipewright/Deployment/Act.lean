import Pipewright.Deployment.Fault
import Pipewright.Dialogue

/-!
# Acts of a session

What a session does is a dialogue of acts. Some of them only tell what happens; the others ask: a
session asks whether it is cancelled each time it enters a stage, whether a pause was cut short by
that, and what the service answers to its calls.
-/
namespace Pipewright

/-- A stage of a deployment. -/
inductive Stage where
  /-- The credentials and the workflow are checked. -/
  | validatingCredentials
  /-- The default branch is looked up. -/
  | fetchingRepoMetadata
  /-- The head of the branch and its tree are looked up. -/
  | resolvingCommitBase
  /-- The document is committed. -/
  | publishingWorkflow
  /-- The service is given time to notice the document. -/
  | awaitingRegistration
  /-- The workflow is started. -/
  | triggeringRun
  /-- The run is looked at until it completes. -/
  | pollingRun
  /-- The jobs of the run are looked at. -/
  | collectingResults
  deriving DecidableEq

/-- The name of a stage. -/
def Stage.name : Stage → String
  | validatingCredentials => "validating_credentials"
  | fetchingRepoMetadata => "fetching_repo_metadata"
  | resolvingCommitBase => "resolving_commit_base"
  | publishingWorkflow => "publishing_workflow"
  | awaitingRegistration => "awaiting_registration"
  | triggeringRun => "triggering_run"
  | pollingRun => "polling_run"
  | collectingResults => "collecting_results"

/-- An act of a session. -/
inductive Act where
  /-- Enters a stage and asks whether the session is cancelled. -/
  | enter (stage : Stage)
  /-- Adds an entry to the report. -/
  | tell (level : Level) (message : String)
  /-- Notes the run that the report names. -/
  | follow (run : UInt64) (url : String)
  /-- Calls the service, however long it takes to answer. -/
  | call (credentials : Credentials) (call : Call)
  /-- Waits that many milliseconds, and asks whether a cancellation came first. -/
  | pause (milliseconds : Nat)
  /-- Asks for the log of a job, unless a cancellation comes first. -/
  | download (credentials : Credentials) (job : UInt64)

/-- What an act is answered: for a stage and a pause, whether the session is cancelled. -/
@[reducible]
def Act.Answer : Act → Type
  | enter _ => Bool
  | tell _ _ => Unit
  | follow _ _ => Unit
  | call _ c => c.Result
  | pause _ => Bool
  | download _ job => Option (Call.jobLog job).Result

/-- What a session does. -/
abbrev Session := Dialogue Act Act.Answer

/-- The session of one act. -/
def Session.ofAct (act : Act) : Session act.Answer := Dialogue.question act

/-- A part of a session that a fault may end. -/
abbrev Procedure := ExceptT DeployFault Session

namespace Procedure

/-- Ends the session with a fault. -/
def stop {α : Type} (fault : DeployFault) : Procedure α := throw fault

/-- Asks one question. -/
def ask (act : Act) : Procedure act.Answer := ExceptT.lift (Session.ofAct act)

/-- Adds an entry that something happens. -/
def info (message : String) : Procedure Unit := ask (.tell .info message)

/-- Adds an entry that something is done. -/
def success (message : String) : Procedure Unit := ask (.tell .success message)

/-- Adds an entry that something is uncertain. -/
def warning (message : String) : Procedure Unit := ask (.tell .warning message)

/-- Adds an entry that something failed. -/
def error (message : String) : Procedure Unit := ask (.tell .error message)

/-- Enters a stage, unless the session is cancelled. -/
def enter (stage : Stage) : Procedure Unit := do
  let cancelled ← ask (.enter stage)
  if cancelled then stop .cancelled

/-- Waits, unless the session is cancelled first. -/
def pause (milliseconds : Nat) : Procedure Unit := do
  let cancelled ← ask (.pause milliseconds)
  if cancelled then stop .cancelled

/-- Calls the service; a failed call ends the session with the fault it is turned into. -/
def callOr (toFault : RemoteFault → DeployFault) (credentials : Credentials) (c : Call) :
    Procedure c.Reply := do
  match ← ask (.call credentials c) with
  | .ok reply => pure reply
  | .error fault => stop (toFault fault)

/-- Calls the service; a failed call ends the session. -/
def call (credentials : Credentials) (c : Call) : Procedure c.Reply :=
  callOr DeployFault.ofRemote credentials c

end Procedure

/-- The session of a procedure: a fault leaves its entry and decides the outcome. -/
def Session.ofProcedure (procedure : Procedure Outcome) : Session Outcome := do
  match ← procedure.run with
  | .ok outcome => pure outcome
  | .error fault =>
    let _ ← Session.ofAct (.tell fault.level fault.line)
    pure fault.outcome

end Pipewright
