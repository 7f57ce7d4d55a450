import Pipewright.Proofs.Deployment.Stages
import Pipewright.Proofs.Deployment.Underway

/-!
# How a session closes

Each stage of a session meets a fault or leaves the session under way. So a session closes with the
entry of its one fault, or when its looks at the run are used up, or when the results of a completed
run are collected (`Closes`, `session_closes`). The looks are an induction on the attempts that are
left, the logs one on the jobs to come.
-/
namespace Pipewright

open Procedure Deployment
open Dialogue (Throughout)

section Stages

variable {s : Settings} {token repo workflow : String} {stage : Option Stage} {looks : Nat}
  {credentials : Credentials} {target : Target} {past : List SessionTurn}

/-- Checking what was given halts the session or leaves it under way. -/
theorem validate_closes (underway : Underway s token repo workflow none 0 past) :
    (validate token repo workflow).Ensures (Halted s token repo workflow)
      (fun credentials now => Credentials.check token repo = .ok credentials ∧
        Underway s token repo workflow (some .validatingCredentials) 0 now) past := by
  have placed : IsPlaced s past ⟨.enter .validatingCredentials, false⟩ :=
    enter_placed underway.stage_eq
  have halts : ∀ fault, refusal? token repo workflow = some fault → Halted s token repo workflow
      fault (past ++ [⟨.enter .validatingCredentials, false⟩]) :=
    fun fault refused => ⟨_, _, past, _, rfl, underway, placed, refused⟩
  rw [validate, ensures_bind, ensures_enter]
  refine ⟨underway.cancelled_enter placed, ?_⟩
  cases checked : Credentials.check token repo with
  | error fault => exact ensures_stop.mpr (halts _ (by simp [refusal?, checked]))
  | ok credentials =>
    simp only [ensures_ite, ensures_bind, ensures_stop, ensures_pure, true_and]
    refine ⟨fun blank => halts _ (by simp [refusal?, checked, blank]), fun filled => ?_⟩
    exact (underway.enter _ placed fun _ => by simp [refusal?, checked, filled]).toUnderway

/-- Looking up the default branch halts the session or leaves it under way. -/
theorem findTarget_closes
    (underway : Underway s token repo workflow (some .validatingCredentials) 0 past) :
    (findTarget credentials).Ensures (Halted s token repo workflow)
      (fun target now => target.credentials = credentials ∧
        Underway s token repo workflow (some .fetchingRepoMetadata) 0 now) past := by
  have placed : IsPlaced s past ⟨.enter .fetchingRepoMetadata, false⟩ :=
    enter_placed underway.stage_eq
  simp only [findTarget, ensures_bind, ensures_enter, ensures_info, ensures_call, ensures_pure,
    true_and]
  have poised := (underway.enter .fetchingRepoMetadata placed).tell .info
    "Fetching repository information..."
  have asked := poised.call credentials .repository
    rfl (.inr poised.fresh) (fun _ => rfl) (fun _ => rfl) fun _ => rfl
  exact ⟨underway.cancelled_enter placed, asked.1,
    fun repository => (asked.2 repository).tell .info _⟩

/-- Looking up the head of the branch halts the session or leaves it under way. -/
theorem findBase_closes
    (underway : Underway s token repo workflow (some .fetchingRepoMetadata) 0 past) :
    (findBase target).Ensures (Halted s token repo workflow)
      (fun _ now => Underway s token repo workflow (some .resolvingCommitBase) 0 now) past := by
  have placed : IsPlaced s past ⟨.enter .resolvingCommitBase, false⟩ :=
    enter_placed underway.stage_eq
  simp only [findBase, ensures_bind, ensures_enter, ensures_info, ensures_call, ensures_pure]
  have poised := (underway.enter .resolvingCommitBase placed).tell .info
    "Getting latest commit information..."
  have asked := poised.call target.credentials (.branch target.branch)
    rfl (.inr poised.fresh) (fun _ => rfl) (fun _ => rfl) fun _ => rfl
  refine ⟨underway.cancelled_enter placed, asked.1, fun branch => ?_⟩
  exact ((asked.2 branch).tell .info _).call target.credentials
    (.tree branch.commit.sha) rfl (.inl rfl) (fun _ => rfl) (fun _ => rfl) fun _ => rfl

/-- Committing the document halts the session or leaves it under way. -/
theorem publish_closes {base : CommitBase}
    (underway : Underway s token repo workflow (some .resolvingCommitBase) 0 past) :
    (publish s target base workflow).Ensures (Halted s token repo workflow)
      (fun _ now => Underway s token repo workflow (some .publishingWorkflow) 0 now) past := by
  have placed : IsPlaced s past ⟨.enter .publishingWorkflow, false⟩ :=
    enter_placed underway.stage_eq
  simp only [publish, ensures_bind, ensures_enter, ensures_info, ensures_success, ensures_call,
    ensures_callOr]
  have poised := (underway.enter .publishingWorkflow placed).tell .info
    "Creating workflow file..."
  have blobbed := poised.call target.credentials (.createBlob workflow)
    rfl (.inr poised.fresh) (fun _ => rfl) (fun _ => rfl) fun _ => rfl
  refine ⟨underway.cancelled_enter placed, blobbed.1, fun blob => ?_⟩
  have treed := ((blobbed.2 blob).tell .info "Setting up directory structure...").call
    target.credentials (.createTree base.tree s.workflowPath blob.sha)
    rfl (.inl rfl) (fun _ => rfl) (fun _ => rfl) fun _ => rfl
  refine ⟨treed.1, fun tree => ?_⟩
  have committed := ((treed.2 tree).tell .info "Committing workflow file to repository...").call
    target.credentials (.createCommit s.commitMessage tree.sha base.commit)
    rfl (.inl rfl) (fun _ => rfl) (fun _ => rfl) fun _ => rfl
  refine ⟨committed.1, fun commit => ?_⟩
  have moved := ((committed.2 commit).tell .info
      ("Updating " ++ target.branch ++ " branch reference...")).call
    target.credentials (.updateRef target.branch commit.sha)
    rfl (.inl rfl) (fun _ => rfl) (fun _ => rfl) fun _ => rfl
  exact ⟨moved.1, fun reply => (moved.2 reply).tell .success _⟩

/-- Looking for the workflow halts the session or leaves it under way. -/
theorem findWorkflow_closes
    (underway : Underway s token repo workflow (some .publishingWorkflow) 0 past) :
    (findWorkflow s target).Ensures (Halted s token repo workflow)
      (fun _ now => Underway s token repo workflow (some .awaitingRegistration) 0 now) past := by
  have placed : IsPlaced s past ⟨.enter .awaitingRegistration, false⟩ :=
    enter_placed underway.stage_eq
  simp only [findWorkflow, ensures_bind, ensures_enter, ensures_info, ensures_pause, ensures_call]
  have waiting := (underway.enter .awaitingRegistration placed).tell .info
    "Waiting for GitHub to register the workflow..."
  have paused := waiting.pause_placed s.registrationDelay (by simp)
  have poised := (waiting.pause s.registrationDelay paused).tell .info
    "Fetching workflow information..."
  have called : ∀ result, IsPlaced s _ ⟨.call target.credentials .workflows, result⟩ :=
    fun _ => ⟨poised.stage_eq, fun _ => poised.fresh⟩
  refine ⟨underway.cancelled_enter placed, waiting.cancelled_pause paused,
    fun fault => ⟨_, _, _, _, rfl, poised.toUnderway, called _, rfl⟩, fun workflows => ?_⟩
  cases found : workflows.find? fun w => w.path == s.workflowPath with
  | none =>
    refine ensures_stop.mpr ⟨_, _, _, _, rfl, poised.toUnderway, called _, ?_⟩
    simp [faultOf?, callFault?, found]
  | some registered =>
    have faultless : faultOf? s token repo workflow
        ⟨.call target.credentials .workflows, .ok workflows⟩ = none := by
      simp [faultOf?, callFault?, found]
    exact ensures_pure.mpr (poised.append_one ⟨.call target.credentials .workflows, .ok workflows⟩
      (isCalm_of_quiet faultless rfl) (called _) rfl rfl)

/-- Starting the workflow halts the session or leaves it under way. -/
theorem trigger_closes {registered : RemoteWorkflow}
    (underway : Underway s token repo workflow (some .awaitingRegistration) 0 past) :
    (trigger target registered).Ensures (Halted s token repo workflow)
      (fun _ now => Underway s token repo workflow (some .triggeringRun) 0 now) past := by
  have placed : IsPlaced s past ⟨.enter .triggeringRun, false⟩ :=
    enter_placed underway.stage_eq
  simp only [trigger, ensures_bind, ensures_enter, ensures_info, ensures_success, ensures_call]
  have poised := (underway.enter .triggeringRun placed).tell .info
    ("Triggering workflow run for \"" ++ registered.name ++ "\"...")
  have started := poised.call target.credentials (.dispatch registered.id target.branch)
    rfl (.inr poised.fresh) (fun _ => rfl) (fun _ => rfl) fun _ => rfl
  exact ⟨underway.cancelled_enter placed, started.1, fun reply => (started.2 reply).tell .success _⟩

/-! ### Looks at the run -/

/-- Whether no look at the run is left: the last one has shown none that completed, or the settings
allow none at all. -/
inductive IsExhausted (s : Settings) : List SessionTurn → Prop where
  /-- The last look has shown no run that completed, and only notes have come since. -/
  | looked {before now : List SessionTurn} {credentials : Credentials} {id : UInt64}
      {branch : String} {runs : List WorkflowRun}
      (incomplete : ∀ run ∈ runs.head?, run.status ≠ "completed")
      (noted : AddsNotes (before ++ [⟨.call credentials (.runs id branch), .ok runs⟩]) now) :
      IsExhausted s now
  /-- There was only the pause before a look that is not allowed. -/
  | unlooked {before : List SessionTurn} {milliseconds : Nat} (none : s.maxPollAttempts = 0) :
      IsExhausted s (before ++ [⟨.pause milliseconds, false⟩])

/-- What holds when no more looks at the run are taken. -/
def HasPolled (s : Settings) (token repo workflow : String) (polled : Polled)
    (now : List SessionTurn) : Prop :=
  match polled with
  | .completed run => ∃ looks others, Underway s token repo workflow (some .pollingRun) looks now ∧
      lastListed now = some (run :: others) ∧ run.status = "completed"
  | .unfinished run =>
    Underway s token repo workflow (some .pollingRun) s.maxPollAttempts now ∧ IsExhausted s now ∧
      latestSeen now = some run
  | .unseen =>
    Underway s token repo workflow (some .pollingRun) s.maxPollAttempts now ∧ IsExhausted s now ∧
      latestSeen now = none

/-- Noting a run makes entries that tell of no failure, and follows it. -/
theorem note_tells {failed : DeployFault → List SessionTurn → Prop} {latest : Option WorkflowRun}
    {run : WorkflowRun} :
    (note s target latest run).Ensures failed
      (fun _ now => ∃ entries url, (∀ entry ∈ entries, entry.1 ≠ Level.error) ∧
        now = past ++ tells entries ++ [⟨.follow run.id url, ()⟩]) past := by
  simp only [note, ensures_bind, ensures_ite, ensures_info]
  refine ⟨fun _ => ensures_question.mpr fun _ => ⟨[(.info, _)], _, ?_, rfl⟩,
    fun _ => ensures_question.mpr fun _ => ⟨[], s.runAddress target.credentials.repo run,
      by simp, by simp [tells]⟩⟩
  intro entry member
  rw [List.mem_singleton.mp member]
  simp

/-- The looks that are left halt the session or leave it under way. -/
theorem poll_closes {id : UInt64} {attempts : Nat} {latest : Option WorkflowRun}
    (underway : Underway s token repo workflow (some .pollingRun) looks past)
    (left : looks + attempts = s.maxPollAttempts) (latest_eq : latestSeen past = latest)
    (exhausted : attempts = 0 → IsExhausted s past) :
    (poll s target id attempts latest).Ensures (Halted s token repo workflow)
      (HasPolled s token repo workflow) past := by
  -- The looks taken and the attempts left add up to the looks allowed, all the way.
  induction attempts generalizing past looks latest with
  | zero =>
    have all : looks = s.maxPollAttempts := left
    cases latest with
    | none => exact ensures_pure.mpr ⟨all ▸ underway, exhausted rfl, latest_eq⟩
    | some run => exact ensures_pure.mpr ⟨all ▸ underway, exhausted rfl, latest_eq⟩
  | succ attempts ih =>
    have paused := underway.pause_placed s.pollInterval fun _ => .inl (by omega)
    have poised := underway.pause s.pollInterval paused
    have latest_eq : latestSeen (past ++ [⟨.pause s.pollInterval, false⟩]) = latest :=
      (latestSeen_append_one rfl).trans latest_eq
    simp only [poll, look, ensures_bind, ensures_pause, ensures_call, ensures_pure]
    refine ⟨underway.cancelled_pause paused, fun fault => ⟨_, _, _, _, rfl, poised.toUnderway,
      ⟨poised.stage_eq, fun _ => poised.fresh⟩, rfl⟩, fun runs => ?_⟩
    cases runs with
    | nil =>
      obtain ⟨unseen, same⟩ := poised.unseen target.credentials id target.branch
      exact ih unseen (by omega) (same.trans latest_eq) fun _ => .looked (by simp) AddsNotes.refl
    | cons run others =>
      rw [List.head?_cons]
      refine ensures_bind.mpr (note_tells.imp (fun _ _ held => held) ?_)
      rintro _ _ ⟨entries, url, mild, rfl⟩
      obtain ⟨seen, last⟩ :=
        poised.seen target.credentials id target.branch run others mild url
      rw [ensures_ite, ensures_pure, ofName_eq_completed]
      refine ⟨fun completed => ⟨_, others, seen, last, completed⟩, fun incomplete => ?_⟩
      have latest_incomplete : ∀ latest ∈ (run :: others).head?, latest.status ≠ "completed" := by
        rintro _ ⟨⟩
        exact incomplete
      exact ih seen (by omega) (latestSeen_of_lastListed last) fun _ => .looked latest_incomplete
        (AddsNotes.trans ⟨_, rfl, fun _ => isNote_of_mem_tells⟩ addsNotes_follow)

/-- Looking at the run halts the session or leaves it under way. -/
theorem awaitRun_closes {registered : RemoteWorkflow}
    (underway : Underway s token repo workflow (some .triggeringRun) 0 past) :
    (awaitRun s target registered).Ensures (Halted s token repo workflow)
      (HasPolled s token repo workflow) past := by
  have placed : IsPlaced s past ⟨.enter .pollingRun, false⟩ :=
    enter_placed underway.stage_eq
  simp only [awaitRun, waitUnlooked, ensures_bind, ensures_enter, ensures_info, ensures_ite,
    ensures_pause, ensures_pure]
  have waiting := (underway.enter .pollingRun placed).tell .info
    "Waiting for workflow run to start..."
  have unseen : ∀ {now}, Underway s token repo workflow (some .pollingRun) 0 now →
      latestSeen now = none :=
    fun underway => latestSeen_eq_none (List.length_eq_zero_iff.mp underway.looks_eq)
  refine ⟨underway.cancelled_enter placed, fun none => ?_, fun some => ?_⟩
  · have mayPause := waiting.pause_placed s.pollInterval fun _ => .inr none
    refine ⟨waiting.cancelled_pause mayPause, ?_⟩
    have paused := (waiting.pause s.pollInterval mayPause).toUnderway
    exact poll_closes paused (Nat.zero_add _) (unseen paused) fun _ => .unlooked none
  · exact poll_closes waiting.toUnderway (Nat.zero_add _) (unseen waiting.toUnderway)
      fun none => absurd none some

/-! ### Results -/

/-- A session that has listed the jobs of the run it saw completed. -/
structure HasListed (s : Settings) (token repo workflow : String) (credentials : Credentials)
    (run : WorkflowRun) (jobs : List RunJob) (looks : Nat) (now : List SessionTurn) : Prop
    extends Underway s token repo workflow (some .collectingResults) looks now where
  /-- The run is the first of those listed last. -/
  shown : ∃ others, lastListed now = some (run :: others)
  /-- It has completed. -/
  completed : run.status = "completed"
  /-- The jobs were listed. -/
  listed : ⟨.call credentials (.jobs run.id), .ok jobs⟩ ∈ now

section HasListed

variable {run : WorkflowRun} {jobs : List RunJob}

/-- An entry keeps what was listed, unless it tells of a failure. -/
theorem HasListed.tell (hasListed : HasListed s token repo workflow credentials run jobs looks past)
    (level : Level) (message : String) (mild : level ≠ .error := by decide) :
    HasListed s token repo workflow credentials run jobs looks
      (past ++ [⟨.tell level message, ()⟩]) where
  toUnderway := hasListed.toUnderway.tell level message mild
  shown := by
    rw [lastListed_append_one rfl]
    exact hasListed.shown
  completed := hasListed.completed
  listed := List.mem_append_left _ hasListed.listed

/-- A log keeps what was listed. -/
theorem HasListed.download
    (hasListed : HasListed s token repo workflow credentials run jobs looks past)
    {job : UInt64} {log : Option (Call.jobLog job).Result} :
    HasListed s token repo workflow credentials run jobs looks
      (past ++ [⟨.download credentials job, log⟩]) where
  toUnderway := hasListed.toUnderway.download
  shown := by
    rw [lastListed_append_one rfl]
    exact hasListed.shown
  completed := hasListed.completed
  listed := List.mem_append_left _ hasListed.listed

variable {failed : DeployFault → List SessionTurn → Prop}

/-- Telling the lines of a log keeps what was listed. -/
theorem tellLog_closes (lines : List String)
    (hasListed : HasListed s token repo workflow credentials run jobs looks past) :
    (tellLog lines).Ensures failed
      (fun _ now => HasListed s token repo workflow credentials run jobs looks now) past := by
  induction lines generalizing past with
  | nil => exact ensures_pure.mpr hasListed
  | cons line lines ih =>
    rw [tellLog, ensures_bind, ensures_info]
    exact ih (hasListed.tell .info line)

/-- Telling how a job went keeps what was listed. -/
theorem tellJob_closes (skipping : Bool) (job : RunJob)
    (hasListed : HasListed s token repo workflow credentials run jobs looks past) :
    (tellJob credentials skipping job).Ensures failed
      (fun _ now => HasListed s token repo workflow credentials run jobs looks now) past := by
  simp only [tellJob, ensures_bind, ensures_info, ensures_ite, ensures_pure]
  have told := (hasListed.tell .info ("Job: " ++ job.name)).tell .info
    ("Status: " ++ job.status ++ ", Conclusion: " ++ job.conclusion.getD "pending")
  refine ⟨fun _ => told, fun _ => ensures_question.mpr ?_⟩
  have fetching := told.tell .info ("Fetching logs for job \"" ++ job.name ++ "\"...")
  rintro (_ | fault | log)
  · rw [ensures_bind, ensures_warning]
    exact fetching.download.tell .warning _
  · rw [ensures_bind, ensures_warning]
    exact fetching.download.tell .warning _
  · rw [ensures_bind]
    exact tellLog_closes (logLines log) fetching.download

/-- Telling how jobs went keeps what was listed. -/
theorem tellJobs_closes (skipping : Bool) (later : List RunJob)
    (hasListed : HasListed s token repo workflow credentials run jobs looks past) :
    (tellJobs credentials skipping later).Ensures failed
      (fun _ now => HasListed s token repo workflow credentials run jobs looks now) past := by
  induction later generalizing past skipping with
  | nil => exact ensures_pure.mpr hasListed
  | cons job later ih =>
    rw [tellJobs, ensures_bind]
    exact (tellJob_closes skipping job hasListed).imp (fun _ _ held => held)
      fun skips _ hasListed => ih skips hasListed

end HasListed

end Stages

/-! ## The session -/

/-- The entries of a session that takes no more looks at a run that has not completed, or at none at
all. -/
def timeoutEntries (s : Settings) (repo : Slug) : Option WorkflowRun → List (Level × String)
  | some run =>
    [(.warning, "Workflow run is still in progress. Status: " ++ run.status ++ "."),
      (.info, "View run at: " ++ s.actionsUrl repo.owner repo.name)]
  | none =>
    [(.warning, "Workflow was triggered but no run was detected after waiting. "
      ++ "Check your GitHub Actions tab for status.")]

/-- The entry that a run failed. -/
def failureEntry (run : WorkflowRun) : Level × String :=
  (.error, "❌ Workflow run failed with conclusion: " ++ run.conclusion.getD "unknown")

/-- The entry of where a run can be viewed. -/
def viewEntry (s : Settings) (repo : Slug) (run : WorkflowRun) : Level × String :=
  (.success, "✅ View complete run at: " ++ s.runAddress repo run)

/-- The entries of a session that has collected the results of a run, the last of them. -/
def closingEntries (s : Settings) (repo : Slug) (run : WorkflowRun) (outcome : Outcome) :
    List (Level × String) :=
  (if outcome = .failure then [failureEntry run] else []) ++ [viewEntry s repo run]

/-- How a session closes, with its outcome and its history. -/
inductive Closes (s : Settings) (token repo workflow : String) :
    Outcome → List SessionTurn → Prop where
  /-- It has met a fault, and its last turn is the entry of that. -/
  | halted {fault : DeployFault} {now : List SessionTurn}
      (halted : Halted s token repo workflow fault now) :
      Closes s token repo workflow fault.outcome (now ++ tells [(fault.level, fault.line)])
  /-- All looks at the run were taken, and it was not seen completed. -/
  | unresolved {credentials : Credentials} {past : List SessionTurn}
      (checked : Credentials.check token repo = .ok credentials)
      (underway : Underway s token repo workflow (some .pollingRun) s.maxPollAttempts past)
      (exhausted : IsExhausted s past) :
      Closes s token repo workflow .indeterminate
        (past ++ tells (timeoutEntries s credentials.repo (latestSeen past)))
  /-- The results of a completed run were collected. -/
  | collected {credentials : Credentials} {run : WorkflowRun} {jobs : List RunJob} {looks : Nat}
      {past : List SessionTurn} (checked : Credentials.check token repo = .ok credentials)
      (hasListed : HasListed s token repo workflow credentials run jobs looks past) :
      Closes s token repo workflow (verdict run jobs)
        (past ++ tells (closingEntries s credentials.repo run (verdict run jobs)))

/-- Every turn of a session that has closed stands where it may. -/
theorem Closes.placed {s : Settings} {token repo workflow : String} {outcome : Outcome}
    {now : List SessionTurn} (closes : Closes s token repo workflow outcome now) :
    Throughout (IsPlaced s) now := by
  cases closes with
  | halted halted =>
    obtain ⟨_, _, past, turn, rfl, underway, placed, -⟩ := halted
    exact placed_append_tells (underway.placed.append_one placed) _
  | unresolved _ underway _ => exact placed_append_tells underway.placed _
  | collected _ hasListed => exact placed_append_tells hasListed.placed _

section Session

variable {s : Settings} {token repo workflow : String} {looks : Nat} {target : Target}
  {past : List SessionTurn}

/-- Collecting the results of a run that was seen completed halts the session or closes it. -/
theorem collect_closes {run : WorkflowRun}
    (checked : Credentials.check token repo = .ok target.credentials)
    (underway : Underway s token repo workflow (some .pollingRun) looks past)
    {others : List WorkflowRun} (shown : lastListed past = some (run :: others))
    (completed : run.status = "completed") :
    (collect s target run).Ensures (Halted s token repo workflow)
      (Closes s token repo workflow) past := by
  simp only [collect, tellFailure, ensures_bind, ensures_enter, ensures_info, ensures_call,
    ensures_ite, ensures_error, ensures_success, ensures_pure]
  have placed : IsPlaced s past ⟨.enter .collectingResults, false⟩ :=
    ⟨underway.stage_eq, fun _ => ⟨run, others, shown, completed⟩⟩
  have poised := (underway.enter .collectingResults placed).tell .info
    "Fetching job results..."
  have asked := poised.call target.credentials (.jobs run.id) rfl (.inr poised.fresh)
    (fun _ => rfl) (fun _ => rfl) fun _ => rfl
  refine ⟨underway.cancelled_enter placed, asked.1, fun jobs => ?_⟩
  have hasListed : HasListed s token repo workflow target.credentials run jobs looks _ := {
    toUnderway := asked.2 jobs
    shown := by
      refine ⟨others, ?_⟩
      rwa [lastListed_append_one rfl, lastListed_append_one rfl, lastListed_append_one rfl]
    completed := completed
    listed := List.mem_append_right _ (List.mem_singleton_self _) }
  refine (tellJobs_closes false jobs hasListed).imp (fun _ _ held => held) ?_
  intro _ now hasListed
  have closes := Closes.collected checked hasListed
  constructor
  · intro failed
    rw [failed] at closes ⊢
    simpa [closingEntries, tells, failureEntry, viewEntry] using closes
  · intro passed
    simpa [closingEntries, passed, tells, viewEntry] using closes

/-- What follows from the looks halts the session or closes it. -/
theorem conclude_closes {polled : Polled}
    (checked : Credentials.check token repo = .ok target.credentials)
    (hasPolled : HasPolled s token repo workflow polled past) :
    (conclude s target polled).Ensures (Halted s token repo workflow)
      (Closes s token repo workflow) past := by
  cases polled with
  | completed run =>
    obtain ⟨looks, others, underway, shown, completed⟩ := hasPolled
    exact collect_closes checked underway shown completed
  | unfinished run =>
    obtain ⟨underway, exhausted, seen⟩ := hasPolled
    simp only [conclude, ensures_bind, ensures_warning, ensures_info, ensures_pure]
    simpa [seen, timeoutEntries, tells] using Closes.unresolved checked underway exhausted
  | unseen =>
    obtain ⟨underway, exhausted, unseen⟩ := hasPolled
    simp only [conclude, ensures_bind, ensures_warning, ensures_pure]
    simpa [unseen, timeoutEntries, tells] using Closes.unresolved checked underway exhausted

/-- A session closes in one of its ways, whatever is answered to it. -/
theorem session_closes (s : Settings) (token repo workflow : String) :
    Dialogue.Ensures (fun now outcome => Closes s token repo workflow outcome now) []
      (session s token repo workflow) := by
  have halts : ∀ fault now, Halted s token repo workflow fault now →
      Closes s token repo workflow fault.outcome (now ++ [⟨.tell fault.level fault.line, ()⟩]) :=
    fun _ _ halted => .halted halted
  -- Each stage starts from what the one before it hands on; one that halts closes the session.
  refine Session.ensures_ofProcedure.mpr ?_
  rw [steps, ensures_bind, ensures_info, ensures_bind]
  refine (validate_closes (underway_nil.tell .info _)).imp halts ?_
  rintro credentials _ ⟨checked, underway⟩
  rw [ensures_bind]
  refine (findTarget_closes underway).imp halts ?_
  rintro target _ ⟨rfl, underway⟩
  rw [ensures_bind]
  refine (findBase_closes underway).imp halts fun base _ underway => ?_
  rw [ensures_bind]
  refine (publish_closes underway).imp halts fun _ _ underway => ?_
  rw [ensures_bind]
  refine (findWorkflow_closes underway).imp halts fun registered _ underway => ?_
  rw [ensures_bind]
  refine (trigger_closes underway).imp halts fun _ _ underway => ?_
  rw [ensures_bind]
  refine (awaitRun_closes underway).imp halts fun polled _ hasPolled => ?_
  exact (conclude_closes checked hasPolled).imp halts fun _ _ closes => closes

end Session

end Pipewright
