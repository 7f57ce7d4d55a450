import Pipewright.Credentials
import Pipewright.Remote.Call
import Pipewright.Report.Basic

/-!
# Why a deployment stops

Each fault ends a session. It decides the outcome, since once the document is committed losing
sight of the run says nothing about it, and it leaves the last entry of the session.
-/
namespace Pipewright

/-- Why a deployment stops. -/
inductive DeployFault where
  /-- The credentials are refused. -/
  | credentials (fault : CredentialFault)
  /-- There is no workflow to deploy. -/
  | emptyWorkflow
  /-- The service refuses a call. -/
  | remote (status : Nat) (payload : String)
  /-- The service does not answer. -/
  | transport (message : String)
  /-- The service answers what cannot be read. -/
  | invalidResponse (message : String)
  /-- The branch has moved meanwhile. -/
  | conflict (branch : String) (status : Nat)
  /-- The service does not list the workflow. -/
  | notRegistered
  /-- The session was cancelled. -/
  | cancelled
  /-- Another session is under way. -/
  | alreadyRunning
  deriving DecidableEq

namespace DeployFault

/-- The wording of a fault. -/
def message : DeployFault → String
  | credentials fault => fault.message
  | emptyWorkflow => "Workflow content is empty"
  | remote status payload => "Error " ++ toString status ++ ": " ++ payload
  | transport message => "Error: " ++ message
  | invalidResponse message => "Error: invalid response from GitHub: " ++ message
  | conflict branch status =>
    "Conflict: branch '" ++ branch ++ "' changed while the workflow was being committed (status "
      ++ toString status ++ "). Re-run the deployment to build on the latest commit"
  | notRegistered =>
    "Workflow file was created but workflow was not found. "
      ++ "It may take a moment for GitHub to register the workflow."
  | cancelled => "Deployment cancelled"
  | alreadyRunning => "Another deployment is already in progress"

/-- The outcome of a session that a fault ends. -/
def outcome : DeployFault → Outcome
  | notRegistered => .indeterminate
  | cancelled => .indeterminate
  | _ => .failure

/-- How serious a fault is. -/
def level (fault : DeployFault) : Level :=
  if fault.outcome = .indeterminate then .warning else .error

/-- The last entry of a session that a fault ends. -/
def line (fault : DeployFault) : String :=
  (if fault.level = .error then "❌ " else "⚠️ ") ++ fault.message

/-- The fault of a failed call. -/
def ofRemote : RemoteFault → DeployFault
  | .refused status message => remote status message
  | .conflict status message => remote status message
  | .unanswered message => transport message
  | .unreadable message => invalidResponse message

/-- The fault of a branch that could not be moved. -/
def ofRefUpdate (branch : String) : RemoteFault → DeployFault
  | .conflict status _ => conflict branch status
  | other => ofRemote other

end DeployFault

end Pipewright
