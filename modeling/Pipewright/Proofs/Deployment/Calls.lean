import Pipewright.Proofs.Deployment.Procedure
import Pipewright.Rehearsal.Script

/-!
# The calls of a session

The calls of a session, in order, with what came of them, and the order that they keep. They follow
a schedule from its beginning; none is made unless the credentials and the workflow pass, nor after
a call that failed, a log's excepted; and each is about what the earlier ones were answered. Nothing
is assumed of the service or of when a cancellation comes: `session_calls_orderly` is about every
partner that answers a session at all.
-/
namespace Pipewright

/-- A call of a session and what came of it; a download that a cancellation cut short, or kept from
being begun, has no result. -/
structure CallRecord where
  /-- The credentials that it carried. -/
  credentials : Credentials
  /-- The call. -/
  call : Call
  /-- What came of it. -/
  result : Option call.Result

namespace CallRecord

/-- The call that a turn is. -/
def ofTurn? : SessionTurn → Option CallRecord
  | ⟨.call credentials c, result⟩ => some ⟨credentials, c, some result⟩
  | ⟨.download credentials job, log⟩ => some ⟨credentials, .jobLog job, log⟩
  | _ => none

/-- The name of the endpoint that was called. -/
def endpoint (r : CallRecord) : String := r.call.endpoint

/-- Whether a call succeeded. -/
def Succeeded (r : CallRecord) : Prop := ∃ reply, r.result = some (.ok reply)

/-- The job whose log was asked for. -/
def job? (r : CallRecord) : Option UInt64 :=
  match r.call with
  | .jobLog job => some job
  | _ => none

end CallRecord

/-- The calls of a history. -/
def callsOf (history : List SessionTurn) : List CallRecord :=
  history.filterMap CallRecord.ofTurn?

section Turns

variable (past : List SessionTurn)

/-- Entering a stage makes no call. -/
theorem callsOf_enter (stage : Stage) (cancelled : Bool) :
    callsOf (past ++ [⟨.enter stage, cancelled⟩]) = callsOf past := by
  simp [callsOf, CallRecord.ofTurn?]

/-- An entry makes no call. -/
theorem callsOf_tell (level : Level) (message : String) :
    callsOf (past ++ [⟨.tell level message, ()⟩]) = callsOf past := by
  simp [callsOf, CallRecord.ofTurn?]

/-- A pause makes no call. -/
theorem callsOf_pause (milliseconds : Nat) (cancelled : Bool) :
    callsOf (past ++ [⟨.pause milliseconds, cancelled⟩]) = callsOf past := by
  simp [callsOf, CallRecord.ofTurn?]

/-- A call is the last one so far. -/
theorem callsOf_call (credentials : Credentials) (c : Call) (result : c.Result) :
    callsOf (past ++ [⟨.call credentials c, result⟩]) =
      callsOf past ++ [⟨credentials, c, some result⟩] := by
  simp [callsOf, CallRecord.ofTurn?]

/-- A download is the last call so far. -/
theorem callsOf_download (credentials : Credentials) (job : UInt64)
    (log : Option (Call.jobLog job).Result) :
    callsOf (past ++ [⟨.download credentials job, log⟩]) =
      callsOf past ++ [⟨credentials, .jobLog job, log⟩] := by
  simp [callsOf, CallRecord.ofTurn?]

end Turns

/-- Notes make no call. -/
theorem Deployment.AddsNotes.callsOf_eq {past now : List SessionTurn}
    (added : Deployment.AddsNotes past now) : callsOf now = callsOf past := by
  obtain ⟨notes, rfl, areNotes⟩ := added
  have silent : callsOf notes = [] := by
    refine List.filterMap_eq_nil_iff.mpr fun turn member => ?_
    have note := areNotes turn member
    match turn with
    | ⟨.tell _ _, _⟩ => rfl
    | ⟨.follow _ _, _⟩ => rfl
  rw [callsOf, List.filterMap_append]
  exact (congrArg _ silent).trans (List.append_nil _)

/-! ## The schedule -/

/-- The calls up to the start of the workflow. -/
def openingCalls : List String :=
  ["get_repository", "get_branch", "get_tree", "create_blob", "create_tree", "create_commit",
    "update_ref", "list_workflows", "dispatch_workflow"]

/-- The calls of a session that nothing stops: those up to the start of the workflow, looks at the
run, the jobs, and logs of them. -/
def callSchedule (looks logs : Nat) : List String :=
  openingCalls ++ List.replicate looks "list_workflow_runs"
    ++ "list_run_jobs" :: List.replicate logs "get_job_logs"

/-- Whether names of endpoints are those of a schedule from its beginning, with at least one look
before the jobs and no more looks than that in all. -/
def IsScheduled (most : Nat) (names : List String) : Prop :=
  names.count "list_workflow_runs" ≤ most ∧
    ∃ looks logs, 1 ≤ looks ∧ names <+: callSchedule looks logs

/-- The first of the opening calls are scheduled. -/
theorem isScheduled_opening (most n : Nat) : IsScheduled most (openingCalls.take n) := by
  constructor
  · have none : (openingCalls.take n).count "list_workflow_runs" ≤ 0 :=
      (List.take_sublist n openingCalls).count_le _
    omega
  · exact ⟨1, 0, Nat.le_refl 1, (List.take_prefix n openingCalls).trans
      ((List.prefix_append _ _).trans (List.prefix_append _ _))⟩

/-- Looks after the opening calls are scheduled as long as they are not too many. -/
theorem isScheduled_looks {most looks : Nat} (few : looks ≤ most) :
    IsScheduled most (openingCalls ++ List.replicate looks "list_workflow_runs") := by
  constructor
  · have count : (openingCalls ++ List.replicate looks "list_workflow_runs").count
        "list_workflow_runs" = looks := by
      simp [openingCalls]
    omega
  · refine ⟨looks + 1, 0, by omega, ?_⟩
    refine List.IsPrefix.trans ?_ (List.prefix_append _ _)
    rw [List.prefix_append_right_inj]
    exact ⟨["list_workflow_runs"], by simp [List.replicate_succ']⟩

/-- The jobs and logs after at least one look are scheduled. -/
theorem isScheduled_jobs {most looks : Nat} (one : 1 ≤ looks) (few : looks ≤ most) (logs : Nat) :
    IsScheduled most (callSchedule looks logs) := by
  constructor
  · have count : (callSchedule looks logs).count "list_workflow_runs" = looks := by
      simp [callSchedule, openingCalls, List.count_append, List.count_replicate]
    omega
  · exact ⟨looks, logs, one, List.prefix_rfl⟩

/-! ## What calls are about -/

/-- Whether a call has been answered with a reply. -/
def Answered (calls : List CallRecord) (c : Call) (reply : c.Reply) : Prop :=
  ∃ credentials, ⟨credentials, c, some (.ok reply)⟩ ∈ calls

/-- Whether a branch is the default one that the repository was found to have. -/
def IsDefaultBranch (calls : List CallRecord) (name : String) : Prop :=
  ∃ repository, Answered calls .repository repository ∧ repository.defaultBranch = name

/-- Whether a hash is that of the commit at which the branch was found. -/
def IsHead (calls : List CallRecord) (sha : String) : Prop :=
  ∃ name branch, Answered calls (.branch name) branch ∧ branch.commit.sha = sha

/-- Whether a hash is that of the tree that was found. -/
def IsBaseTree (calls : List CallRecord) (sha : String) : Prop :=
  ∃ commit tree, Answered calls (.tree commit) tree ∧ tree.sha = sha

/-- Whether a hash is that of the blob that was made. -/
def IsBlob (calls : List CallRecord) (sha : String) : Prop :=
  ∃ content blob, Answered calls (.createBlob content) blob ∧ blob.sha = sha

/-- Whether a hash is that of the tree that was made. -/
def IsNewTree (calls : List CallRecord) (sha : String) : Prop :=
  ∃ base path blob tree, Answered calls (.createTree base path blob) tree ∧ tree.sha = sha

/-- Whether a hash is that of the commit that was made. -/
def IsNewCommit (calls : List CallRecord) (sha : String) : Prop :=
  ∃ message tree parent commit,
    Answered calls (.createCommit message tree parent) commit ∧ commit.sha = sha

/-- Whether an identifier is that of the first listed workflow with the path of the document. -/
def IsRegistered (s : Settings) (calls : List CallRecord) (id : UInt64) : Prop :=
  ∃ workflows workflow, Answered calls .workflows workflows ∧
    workflows.find? (fun w => w.path == s.workflowPath) = some workflow ∧ workflow.id = id

/-- Whether a look at the latest run showed that it has completed. -/
def SeesCompleted (calls : List CallRecord) (run : WorkflowRun) : Prop :=
  ∃ workflow branch runs, Answered calls (.runs workflow branch) (run :: runs) ∧
    run.status = "completed"

/-- Whether an identifier is that of the run that the last call found completed. -/
def IsCompletedRun (calls : List CallRecord) (id : UInt64) : Prop :=
  ∃ credentials workflow branch run runs,
    calls.getLast? = some ⟨credentials, .runs workflow branch, some (.ok (run :: runs))⟩ ∧
      run.status = "completed" ∧ run.id = id

/-- Whether an identifier is that of a job that was listed. -/
def IsListedJob (calls : List CallRecord) (id : UInt64) : Prop :=
  ∃ run jobs, Answered calls (.jobs run) jobs ∧ id ∈ jobs.map RunJob.id

/-- Whether a call is about what earlier ones were answered, and about the document. -/
def IsThreaded (s : Settings) (workflow : String) (earlier : List CallRecord) : Call → Prop
  | .repository => True
  | .branch name => IsDefaultBranch earlier name
  | .tree sha => IsHead earlier sha
  | .createBlob content => content = workflow
  | .createTree base path blob =>
    IsBaseTree earlier base ∧ path = s.workflowPath ∧ IsBlob earlier blob
  | .createCommit message tree parent =>
    message = s.commitMessage ∧ IsNewTree earlier tree ∧ IsHead earlier parent
  | .updateRef branch sha => IsDefaultBranch earlier branch ∧ IsNewCommit earlier sha
  | .workflows => True
  | .dispatch id branch => IsRegistered s earlier id ∧ IsDefaultBranch earlier branch
  | .runs id branch => IsRegistered s earlier id ∧ IsDefaultBranch earlier branch
  | .jobs run => IsCompletedRun earlier run
  | .jobLog job => IsListedJob earlier job

/-- The order that the calls of a session keep. -/
structure IsOrderly (s : Settings) (token repo workflow : String) (calls : List CallRecord) :
    Prop where
  /-- They are those of a schedule from its beginning. -/
  scheduled : IsScheduled s.maxPollAttempts (calls.map CallRecord.endpoint)
  /-- The logs are those of the listed jobs from the first one, each once and in their order. -/
  logs : ∀ credentials run jobs, ⟨credentials, .jobs run, some (.ok jobs)⟩ ∈ calls →
    calls.filterMap CallRecord.job? <+: jobs.map RunJob.id
  /-- None is made without a workflow and credentials that pass, and all carry these. -/
  entitled : ∀ r ∈ calls,
    isBlank workflow = false ∧ Credentials.check token repo = .ok r.credentials
  /-- None is made after one that failed, a log's excepted. -/
  succeeded : ∀ earlier r later, calls = earlier ++ r :: later →
    ∀ e ∈ earlier, e.job?.isSome ∨ e.Succeeded
  /-- Each is about what earlier ones were answered. -/
  threaded : ∀ earlier r later, calls = earlier ++ r :: later →
    IsThreaded s workflow earlier r.call

section Threads

variable {s : Settings} {calls : List CallRecord} (more : List CallRecord)

/-- A reply stays one. -/
theorem Answered.append {c : Call} {reply : c.Reply} (answered : Answered calls c reply) :
    Answered (calls ++ more) c reply := by
  obtain ⟨credentials, found⟩ := answered
  exact ⟨credentials, List.mem_append_left more found⟩

/-- The last call has been answered. -/
theorem answered_last (credentials : Credentials) (c : Call) (reply : c.Reply) :
    Answered (calls ++ [⟨credentials, c, some (.ok reply)⟩]) c reply :=
  ⟨credentials, by simp⟩

/-- A reply to a longer list of calls is one of the last call or one of those before it. -/
theorem answered_append_one {r : CallRecord} {c : Call} {reply : c.Reply} :
    Answered (calls ++ [r]) c reply ↔
      Answered calls c reply ∨ r = ⟨r.credentials, c, some (.ok reply)⟩ := by
  constructor
  · rintro ⟨credentials, member⟩
    rcases List.mem_append.mp member with old | new
    · exact .inl ⟨credentials, old⟩
    · cases List.mem_singleton.mp new
      exact .inr rfl
  · rintro (⟨credentials, old⟩ | new)
    · exact ⟨credentials, List.mem_append_left _ old⟩
    · exact ⟨r.credentials, by rw [← new]; simp⟩

/-- A call that has been answered is one of those made. -/
theorem Answered.endpoint_mem {c : Call} {reply : c.Reply} (answered : Answered calls c reply) :
    c.endpoint ∈ calls.map CallRecord.endpoint := by
  obtain ⟨credentials, member⟩ := answered
  exact List.mem_map_of_mem (f := CallRecord.endpoint) member

/-- The default branch stays it. -/
theorem IsDefaultBranch.append {name : String} (found : IsDefaultBranch calls name) :
    IsDefaultBranch (calls ++ more) name := by
  obtain ⟨repository, answered, same⟩ := found
  exact ⟨repository, answered.append more, same⟩

/-- The head stays it. -/
theorem IsHead.append {sha : String} (found : IsHead calls sha) : IsHead (calls ++ more) sha := by
  obtain ⟨name, branch, answered, same⟩ := found
  exact ⟨name, branch, answered.append more, same⟩

/-- The tree that was found stays it. -/
theorem IsBaseTree.append {sha : String} (found : IsBaseTree calls sha) :
    IsBaseTree (calls ++ more) sha := by
  obtain ⟨commit, tree, answered, same⟩ := found
  exact ⟨commit, tree, answered.append more, same⟩

/-- A completed run stays seen. -/
theorem SeesCompleted.append {run : WorkflowRun} (seen : SeesCompleted calls run) :
    SeesCompleted (calls ++ more) run := by
  obtain ⟨workflow, branch, runs, answered, completed⟩ := seen
  exact ⟨workflow, branch, runs, answered.append more, completed⟩

/-- The run that the last call found completed has been seen so. -/
theorem IsCompletedRun.seen {id : UInt64} (found : IsCompletedRun calls id) :
    ∃ run, SeesCompleted calls run ∧ run.id = id := by
  obtain ⟨credentials, workflow, branch, run, runs, last, completed, same⟩ := found
  exact ⟨run, ⟨workflow, branch, runs, ⟨credentials, List.mem_of_getLast? last⟩, completed⟩, same⟩

/-- The workflow stays registered. -/
theorem IsRegistered.append {id : UInt64} (found : IsRegistered s calls id) :
    IsRegistered s (calls ++ more) id := by
  obtain ⟨workflows, workflow, answered, first, same⟩ := found
  exact ⟨workflows, workflow, answered.append more, first, same⟩

end Threads

/-! ## One call more -/

section Sessions

variable {s : Settings} {token repo workflow : String} {credentials : Credentials}

/-- No call at all is orderly. -/
theorem isOrderly_nil : IsOrderly s token repo workflow [] where
  scheduled := isScheduled_opening _ 0
  logs := by simp
  entitled := by simp
  succeeded := by simp
  threaded := by simp

/-- Orderly calls stay so with one more that keeps the order. -/
theorem IsOrderly.append_one {calls : List CallRecord} {r : CallRecord}
    (orderly : IsOrderly s token repo workflow calls)
    (scheduled : IsScheduled s.maxPollAttempts ((calls ++ [r]).map CallRecord.endpoint))
    (logs : ∀ credentials run jobs, ⟨credentials, .jobs run, some (.ok jobs)⟩ ∈ calls ++ [r] →
      (calls ++ [r]).filterMap CallRecord.job? <+: jobs.map RunJob.id)
    (entitled : isBlank workflow = false ∧ Credentials.check token repo = .ok r.credentials)
    (succeeded : ∀ e ∈ calls, e.job?.isSome ∨ e.Succeeded)
    (threaded : IsThreaded s workflow calls r.call) :
    IsOrderly s token repo workflow (calls ++ [r]) := by
  -- A call of the longer list is the new one, with all the others before it, or one of the others.
  have splits : ∀ earlier e later, calls ++ [r] = earlier ++ e :: later →
      (calls = earlier ∧ r = e) ∨ ∃ between, calls = earlier ++ e :: between := by
    intro earlier e later split
    rcases List.eq_nil_or_concat later with rfl | ⟨between, last, rfl⟩
    · exact .inl (by simpa using List.append_inj' split rfl)
    · have shorter : calls = earlier ++ e :: between := by
        have whole : calls ++ [r] = (earlier ++ e :: between) ++ [last] := by simpa using split
        exact (List.append_inj' whole rfl).1
      exact .inr ⟨between, shorter⟩
  refine ⟨scheduled, logs, ?_, ?_, ?_⟩
  · intro e member
    rcases List.mem_append.mp member with old | new
    · exact orderly.entitled e old
    · rw [List.mem_singleton.mp new]
      exact entitled
  · intro earlier e later split
    rcases splits earlier e later split with ⟨rfl, rfl⟩ | ⟨between, shorter⟩
    · exact succeeded
    · exact orderly.succeeded earlier e between shorter
  · intro earlier e later split
    rcases splits earlier e later split with ⟨rfl, rfl⟩ | ⟨between, shorter⟩
    · exact threaded
    · exact orderly.threaded earlier e between shorter

/-- Calls of a session that is under way: orderly, all succeeded, none of them a log's, and with
given names. -/
structure Standing (s : Settings) (token repo workflow : String) (credentials : Credentials)
    (names : List String) (calls : List CallRecord) : Prop where
  /-- They are orderly. -/
  orderly : IsOrderly s token repo workflow calls
  /-- All of them succeeded. -/
  succeeded : ∀ r ∈ calls, r.Succeeded
  /-- None of them is a log's. -/
  unlogged : calls.filterMap CallRecord.job? = []
  /-- No jobs have been listed. -/
  unlisted : "list_run_jobs" ∉ names
  /-- Their names. -/
  names_eq : calls.map CallRecord.endpoint = names
  /-- There is a workflow. -/
  filled : isBlank workflow = false
  /-- The credentials pass. -/
  checked : Credentials.check token repo = .ok credentials

variable {names : List String} {calls : List CallRecord}

/-- A call that is on the schedule and about earlier replies keeps the order, however it goes. -/
theorem Standing.orderly_call (standing : Standing s token repo workflow credentials names calls)
    {c : Call} (unlogged : CallRecord.job? ⟨credentials, c, none⟩ = none)
    (scheduled : IsScheduled s.maxPollAttempts (names ++ [c.endpoint]))
    (threaded : IsThreaded s workflow calls c) (result : c.Result) :
    IsOrderly s token repo workflow (calls ++ [⟨credentials, c, some result⟩]) := by
  have unlogged : CallRecord.job? ⟨credentials, c, some result⟩ = none := unlogged
  refine standing.orderly.append_one ?_ ?_ ⟨standing.filled, standing.checked⟩ ?_ threaded
  · simpa [standing.names_eq, CallRecord.endpoint] using scheduled
  · intro _ run jobs _
    simp [standing.unlogged, unlogged]
  · exact fun e member => .inr (standing.succeeded e member)

/-- A session stays under way with a call that succeeds, unless it lists the jobs. -/
theorem Standing.call (standing : Standing s token repo workflow credentials names calls)
    {c : Call} (unlogged : CallRecord.job? ⟨credentials, c, none⟩ = none)
    (unlisted : c.endpoint ≠ "list_run_jobs")
    (scheduled : IsScheduled s.maxPollAttempts (names ++ [c.endpoint]))
    (threaded : IsThreaded s workflow calls c) (reply : c.Reply) :
    Standing s token repo workflow credentials (names ++ [c.endpoint])
      (calls ++ [⟨credentials, c, some (.ok reply)⟩]) where
  orderly := standing.orderly_call unlogged scheduled threaded _
  succeeded := by
    intro e member
    rcases List.mem_append.mp member with old | new
    · exact standing.succeeded e old
    · rw [List.mem_singleton.mp new]
      exact ⟨reply, rfl⟩
  unlogged := by
    have unlogged : CallRecord.job? ⟨credentials, c, some (.ok reply)⟩ = none := unlogged
    simp [standing.unlogged, unlogged]
  unlisted := by
    have first := standing.unlisted
    simp [first, Ne.symm unlisted]
  names_eq := by simp [standing.names_eq, CallRecord.endpoint]
  filled := standing.filled
  checked := standing.checked

/-- A session under way has not listed jobs. -/
theorem Standing.not_answered (standing : Standing s token repo workflow credentials names calls)
    (id : UInt64) (jobs : List RunJob) : ¬Answered calls (.jobs id) jobs := by
  intro answered
  have named := answered.endpoint_mem
  rw [standing.names_eq] at named
  exact standing.unlisted named

end Sessions

end Pipewright
