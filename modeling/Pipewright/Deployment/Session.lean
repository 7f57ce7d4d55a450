import Pipewright.Deployment.Act
import Pipewright.Deployment.Settings
import Pipewright.Text.Split

/-!
# Deployment sessions

A deployment goes through its stages in order: it checks what it was given, commits the document of
the workflow on top of the head of the default branch, starts the workflow, looks at the run until
it completes, and tells how each job went. Every stage hands the next one what it found.
-/
namespace Pipewright

/-- Credentials and the branch on which everything happens. -/
structure Target where
  /-- The credentials that every call carries. -/
  credentials : Credentials
  /-- The default branch of the repository. -/
  branch : String

/-- The head of a branch and its tree. -/
structure CommitBase where
  /-- The hash of the commit. -/
  commit : String
  /-- The hash of its tree. -/
  tree : String
  deriving DecidableEq

/-- How looking at the run ends. -/
inductive Polled where
  /-- With a run that completed. -/
  | completed (run : WorkflowRun)
  /-- With a run that did not complete in time. -/
  | unfinished (run : WorkflowRun)
  /-- Without a run. -/
  | unseen
  deriving DecidableEq

/-- Whether a conclusion counts as passed; a job that is skipped or neutral does. -/
def isPassing (conclusion : Option String) : Bool :=
  conclusion == some "success" || conclusion == some "skipped" || conclusion == some "neutral"

/-- How far a run is. -/
inductive RunStatus where
  /-- It waits to start. -/
  | queued
  /-- It is under way. -/
  | inProgress
  /-- It is over. -/
  | completed
  /-- Anything else. -/
  | other (status : String)
  deriving DecidableEq

namespace RunStatus

/-- The status of a name. -/
def ofName (name : String) : RunStatus :=
  if name = "queued" then queued
  else if name = "in_progress" then inProgress
  else if name = "completed" then completed
  else other name

/-- The name of a status. -/
def name : RunStatus → String
  | queued => "queued"
  | inProgress => "in_progress"
  | completed => "completed"
  | other status => status

/-- A status is the one of its name. -/
theorem name_ofName (status : String) : (ofName status).name = status := by
  unfold ofName
  split
  · simp [name, *]
  · split
    · simp [name, *]
    · split <;> simp [name, *]

/-- The entry about a run with a status and a conclusion. -/
def line (conclusion : Option String) : RunStatus → String
  | queued => "Workflow run is queued and waiting to start..."
  | inProgress => "Workflow run is in progress..."
  | completed => "Workflow run completed with conclusion: " ++ conclusion.getD "unknown"
  | other status => "Workflow run status: " ++ status

end RunStatus

/-- The characters that take exactly that many bytes, if the text starts so. -/
def takeBytes : List Char → Nat → Option (List Char)
  | _, 0 => some []
  | [], _ + 1 => none
  | c :: cs, n + 1 =>
    if c.utf8Size ≤ n + 1 then (takeBytes cs (n + 1 - c.utf8Size)).map (c :: ·) else none

/-- A hash cut to its first seven bytes, or whole when it cannot be. -/
def shortHash (sha : String) : String :=
  match takeBytes sha.toList 7 with
  | some cs => String.ofList cs
  | none => sha

/-- The lines of a log that are not blank, without the blanks at their ends. -/
def logLines (log : String) : List String :=
  (((splitAtChar '\n' log.toList).map dropTrailingBlanks).filter fun line => !line.isEmpty).map
    String.ofList

/-- The address of a run: its own, or the page that the settings give it. -/
def Settings.runAddress (s : Settings) (repo : Slug) (run : WorkflowRun) : String :=
  run.htmlUrl.getD (s.runUrl repo.owner repo.name run.id)

namespace Deployment

open Procedure

/-- Checks the credentials, then whether there is a workflow. -/
def validate (token repo workflow : String) : Procedure Credentials := do
  enter .validatingCredentials
  match Credentials.check token repo with
  | .error fault => stop (.credentials fault)
  | .ok credentials =>
    if isBlank workflow then stop .emptyWorkflow
    pure credentials

/-- Looks up the default branch. -/
def findTarget (credentials : Credentials) : Procedure Target := do
  enter .fetchingRepoMetadata
  info "Fetching repository information..."
  let repository ← call credentials .repository
  info ("Using default branch: " ++ repository.defaultBranch)
  pure ⟨credentials, repository.defaultBranch⟩

/-- Looks up the head of the branch and its tree. -/
def findBase (target : Target) : Procedure CommitBase := do
  enter .resolvingCommitBase
  info "Getting latest commit information..."
  let branch ← call target.credentials (.branch target.branch)
  info ("Latest commit SHA: " ++ shortHash branch.commit.sha)
  let tree ← call target.credentials (.tree branch.commit.sha)
  pure ⟨branch.commit.sha, tree.sha⟩

/-- Commits the document on top of the head and moves the branch there. -/
def publish (s : Settings) (target : Target) (base : CommitBase) (workflow : String) :
    Procedure Unit := do
  enter .publishingWorkflow
  info "Creating workflow file..."
  let blob ← call target.credentials (.createBlob workflow)
  info "Setting up directory structure..."
  let tree ← call target.credentials (.createTree base.tree s.workflowPath blob.sha)
  info "Committing workflow file to repository..."
  let commit ← call target.credentials (.createCommit s.commitMessage tree.sha base.commit)
  info ("Updating " ++ target.branch ++ " branch reference...")
  callOr (DeployFault.ofRefUpdate target.branch) target.credentials
    (.updateRef target.branch commit.sha)
  success ("✅ Workflow file committed successfully to " ++ target.branch)

/-- Gives the service time to notice the document, then looks for the workflow of its path. -/
def findWorkflow (s : Settings) (target : Target) : Procedure RemoteWorkflow := do
  enter .awaitingRegistration
  info "Waiting for GitHub to register the workflow..."
  pause s.registrationDelay
  info "Fetching workflow information..."
  let workflows ← call target.credentials .workflows
  match workflows.find? (fun w => w.path == s.workflowPath) with
  | some workflow => pure workflow
  | none => stop .notRegistered

/-- Starts the workflow on the branch. -/
def trigger (target : Target) (workflow : RemoteWorkflow) : Procedure Unit := do
  enter .triggeringRun
  info ("Triggering workflow run for \"" ++ workflow.name ++ "\"...")
  call target.credentials (.dispatch workflow.id target.branch)
  success "✅ Workflow triggered successfully"

/-- Looks at the latest run after a pause. -/
def look (s : Settings) (target : Target) (workflow : UInt64) : Procedure (Option WorkflowRun) := do
  pause s.pollInterval
  let runs ← call target.credentials (.runs workflow target.branch)
  pure runs.head?

/-- Tells the status of a run if it is not that of the run seen before, and follows the run. -/
def note (s : Settings) (target : Target) (latest : Option WorkflowRun) (run : WorkflowRun) :
    Procedure Unit := do
  if latest.map WorkflowRun.status ≠ some run.status then
    info ((RunStatus.ofName run.status).line run.conclusion)
  ask (.follow run.id (s.runAddress target.credentials.repo run))

/-- Looks at the latest run that many times until it completes; latest is the run seen last. -/
def poll (s : Settings) (target : Target) (workflow : UInt64) :
    Nat → Option WorkflowRun → Procedure Polled
  | 0, none => pure .unseen
  | 0, some run => pure (.unfinished run)
  | attempts + 1, latest => do
    match ← look s target workflow with
    | none => poll s target workflow attempts latest
    | some run =>
      note s target latest run
      if RunStatus.ofName run.status = .completed then pure (.completed run)
      else poll s target workflow attempts (some run)

/-- Waits once where the settings allow no look at all. -/
def waitUnlooked (s : Settings) : Procedure Unit :=
  if s.maxPollAttempts = 0 then pause s.pollInterval else pure ()

/-- Looks at the run until it completes or the attempts are used up. -/
def awaitRun (s : Settings) (target : Target) (workflow : RemoteWorkflow) : Procedure Polled := do
  enter .pollingRun
  info "Waiting for workflow run to start..."
  waitUnlooked s
  poll s target workflow.id s.maxPollAttempts none

/-- Tells the lines of a job's log. -/
def tellLog : List String → Procedure Unit
  | [] => pure ()
  | line :: lines => do
    info line
    tellLog lines

/-- Tells how a job went, with its log unless logs are being skipped, and hands on whether they are
from now on. -/
def tellJob (credentials : Credentials) (skipping : Bool) (job : RunJob) : Procedure Bool := do
  info ("Job: " ++ job.name)
  info ("Status: " ++ job.status ++ ", Conclusion: " ++ job.conclusion.getD "pending")
  if skipping then pure true
  else
    info ("Fetching logs for job \"" ++ job.name ++ "\"...")
    match ← ask (.download credentials job.id) with
    | some (.ok log) =>
      tellLog (logLines log)
      pure false
    | some (.error _) =>
      warning "Could not retrieve logs for this job."
      pure false
    | none =>
      warning "⚠️ Deployment cancelled; skipping remaining job logs"
      pure true

/-- Tells how jobs went one after another. -/
def tellJobs (credentials : Credentials) : Bool → List RunJob → Procedure Unit
  | _, [] => pure ()
  | skipping, job :: jobs => do
    let skipping ← tellJob credentials skipping job
    tellJobs credentials skipping jobs

/-- The outcome of a completed run: it succeeded when it and every one of its jobs passed. -/
def verdict (run : WorkflowRun) (jobs : List RunJob) : Outcome :=
  if isPassing run.conclusion && jobs.all fun job => isPassing job.conclusion then .success
  else .failure

/-- Tells that a run failed if it did. -/
def tellFailure (run : WorkflowRun) (outcome : Outcome) : Procedure Unit :=
  if outcome = .failure then
    error ("❌ Workflow run failed with conclusion: " ++ run.conclusion.getD "unknown")
  else pure ()

/-- Looks at the jobs of a completed run and tells how it went. -/
def collect (s : Settings) (target : Target) (run : WorkflowRun) : Procedure Outcome := do
  enter .collectingResults
  info "Fetching job results..."
  let jobs ← call target.credentials (.jobs run.id)
  tellJobs target.credentials false jobs
  tellFailure run (verdict run jobs)
  success ("✅ View complete run at: " ++ s.runAddress target.credentials.repo run)
  pure (verdict run jobs)

/-- What follows from how looking at the run ended. -/
def conclude (s : Settings) (target : Target) : Polled → Procedure Outcome
  | .completed run => collect s target run
  | .unfinished run => do
    warning ("Workflow run is still in progress. Status: " ++ run.status ++ ".")
    let repo := target.credentials.repo
    info ("View run at: " ++ s.actionsUrl repo.owner repo.name)
    pure .indeterminate
  | .unseen => do
    warning ("Workflow was triggered but no run was detected after waiting. "
      ++ "Check your GitHub Actions tab for status.")
    pure .indeterminate

/-- The steps of a deployment. -/
def steps (s : Settings) (token repo workflow : String) : Procedure Outcome := do
  info "Initializing GitHub Actions deployment..."
  let credentials ← validate token repo workflow
  let target ← findTarget credentials
  let base ← findBase target
  publish s target base workflow
  let registered ← findWorkflow s target
  trigger target registered
  let polled ← awaitRun s target registered
  conclude s target polled

/-- A deployment session. -/
def session (s : Settings) (token repo workflow : String) : Session Outcome :=
  Session.ofProcedure (steps s token repo workflow)

/-- A session that is refused because another one is under way: it leaves one entry. -/
def refusal : Session Outcome := Session.ofProcedure (stop .alreadyRunning)

/-- A session that runs only when no other one is under way. -/
def unlessBusy (busy : Bool) (session : Session Outcome) : Session Outcome :=
  if busy then refusal else session

/-- What a call to deploy leads to. -/
structure Admission where
  /-- What it does. -/
  session : Session Outcome
  /-- Whether it keeps other calls out until it is over. -/
  excludes : Bool

/-- What a call is granted, given whether a session is under way. -/
def grant (busy : Bool) (session : Session Outcome) : Admission :=
  ⟨unlessBusy busy session, !busy⟩

/-- Whether a session is under way after a call is over, be it at its end or given up before. -/
def vacate (busy excludes : Bool) : Bool := busy && !excludes

/-- Checks the credentials and looks up the repository; nothing is changed. -/
def checkConnection (token repo : String) : Session (Except DeployFault Repository) :=
  match Credentials.check token repo with
  | .error fault => pure (.error (.credentials fault))
  | .ok credentials => do
    match ← Session.ofAct (.call credentials .repository) with
    | .ok repository => pure (.ok repository)
    | .error fault => pure (.error (.ofRemote fault))

end Deployment

end Pipewright
