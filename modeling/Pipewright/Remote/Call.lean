import Pipewright.Remote.Record

/-!
# Calls of the service

The twelve things the service is asked for, what it answers to each, and the four ways in which a
call fails.
-/
namespace Pipewright

/-- A call of the service about one repository. -/
inductive Call where
  /-- The repository itself. -/
  | repository
  /-- A branch by name. -/
  | branch (name : String)
  /-- The tree of a commit. -/
  | tree (sha : String)
  /-- A new blob with a text. -/
  | createBlob (content : String)
  /-- A new tree: another one with the file at a path replaced. -/
  | createTree (base path blob : String)
  /-- A new commit of a tree on top of a parent. -/
  | createCommit (message tree parent : String)
  /-- Moves a branch to a commit, unless commits would be lost. -/
  | updateRef (branch sha : String)
  /-- The workflows. -/
  | workflows
  /-- Starts a workflow on a branch. -/
  | dispatch (workflow : UInt64) (branch : String)
  /-- The runs of a workflow on a branch, the latest first. -/
  | runs (workflow : UInt64) (branch : String)
  /-- The jobs of a run. -/
  | jobs (run : UInt64)
  /-- The log of a job. -/
  | jobLog (job : UInt64)
  deriving DecidableEq

namespace Call

/-- What the service answers to a call that succeeds. -/
@[reducible]
def Reply : Call → Type
  | repository => Repository
  | branch _ => Branch
  | tree _ => GitObject
  | createBlob _ => GitObject
  | createTree _ _ _ => GitObject
  | createCommit _ _ _ => GitObject
  | updateRef _ _ => Unit
  | workflows => List RemoteWorkflow
  | dispatch _ _ => Unit
  | runs _ _ => List WorkflowRun
  | jobs _ => List RunJob
  | jobLog _ => String

end Call

/-- How a call fails. -/
inductive RemoteFault where
  /-- The service refuses it with a status and a text. -/
  | refused (status : Nat) (message : String)
  /-- The service refuses to move a branch, with a status and a text. -/
  | conflict (status : Nat) (message : String)
  /-- No answer arrives. -/
  | unanswered (message : String)
  /-- The answer cannot be read. -/
  | unreadable (message : String)
  deriving DecidableEq

/-- The wording of a failed call. -/
def RemoteFault.message : RemoteFault → String
  | refused status message => "API error (status " ++ toString status ++ "): " ++ message
  | conflict status message =>
    "Reference update rejected (status " ++ toString status ++ "): " ++ message
  | unanswered message => "HTTP request failed: " ++ message
  | unreadable message => "Failed to parse response: " ++ message

/-- What a call results in. -/
@[reducible]
def Call.Result (c : Call) : Type := Except RemoteFault c.Reply

end Pipewright
