import Pipewright.Deployment.Act

/-!
# Simulated runs

Without a repository a run is only walked through: every job goes through its stages and succeeds,
with a pause before each entry, and a cancellation ends the walk at the next pause.
-/
namespace Pipewright.Simulation

open Procedure

/-- The pause before an entry, in milliseconds. -/
def stepLength : Nat := 300

/-- Walks through the stages of a job. -/
def walkJob (job : String) : Procedure Unit := do
  pause stepLength
  info ("[" ++ job ++ "] Started")
  pause stepLength
  info ("[" ++ job ++ "] Processing...")
  pause stepLength
  info ("[" ++ job ++ "] Running commands...")
  pause stepLength
  success ("[" ++ job ++ "] Completed successfully")

/-- Walks through jobs in order. -/
def walkJobs : List String → Procedure Unit
  | [] => pure ()
  | job :: jobs => do
    walkJob job
    walkJobs jobs

/-- The steps of a simulated run. -/
def steps (jobs : List String) : Procedure Outcome := do
  info "Initializing pipeline..."
  pause stepLength
  info "Running in simulation mode (no repository connected)"
  if jobs.isEmpty then warning "No jobs defined; nothing to run."
  walkJobs jobs
  pause stepLength
  success "✅ Pipeline execution completed successfully."
  pure .success

/-- The session of a simulated run. -/
def session (jobs : List String) : Session Outcome := Session.ofProcedure (steps jobs)

end Pipewright.Simulation
