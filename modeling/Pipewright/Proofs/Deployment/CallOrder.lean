import Pipewright.Proofs.Deployment.Stages

/-!
# The order of the calls

A session that lists the jobs of a completed run asks for their logs in turn, which is an induction
on the jobs to come. With the stages before, this gives all the ways in which a session ends
(`session_ends`), each with its calls in order (`session_calls_orderly`).
-/
namespace Pipewright

open Procedure Deployment

variable {s : Settings} {token repo workflow : String} {credentials : Credentials}
  {past : List SessionTurn}

/-! ## Logs -/

/-- Calls of a session that has listed the jobs of a completed run, with the logs of the first jobs
asked for. -/
structure Collecting (s : Settings) (token repo workflow : String) (credentials : Credentials)
    (run : WorkflowRun) (jobs asked : List RunJob) (calls : List CallRecord) : Prop where
  /-- They are orderly. -/
  orderly : IsOrderly s token repo workflow calls
  /-- Their names. -/
  names_eq : ∃ looks, 1 ≤ looks ∧ looks ≤ s.maxPollAttempts ∧
    calls.map CallRecord.endpoint = callSchedule looks asked.length
  /-- Those that are not a log's succeeded. -/
  succeeded : ∀ r ∈ calls, r.job?.isSome ∨ r.Succeeded
  /-- The logs. -/
  logs : calls.filterMap CallRecord.job? = asked.map RunJob.id
  /-- It is the one run that was seen completed. -/
  seen : ∀ other, SeesCompleted calls other ↔ other = run
  /-- Its jobs were listed, and those of no other run. -/
  listed : ∀ id all, Answered calls (.jobs id) all ↔ id = run.id ∧ all = jobs
  /-- There is a workflow. -/
  filled : isBlank workflow = false
  /-- The credentials pass. -/
  checked : Credentials.check token repo = .ok credentials

/-- A session fails when it lists the jobs of a completed run, or it has listed them. -/
theorem Standing.jobs {calls : List CallRecord} {looks : Nat} {run : WorkflowRun}
    (standing : Standing s token repo workflow credentials
      (openingCalls ++ List.replicate looks "list_workflow_runs") calls)
    (one : 1 ≤ looks) (few : looks ≤ s.maxPollAttempts) (completed : IsCompletedRun calls run.id)
    (seen : ∀ other, SeesCompleted calls other ↔ other = run) :
    (∀ fault, Stopped s token repo workflow .failure
      (calls ++ [⟨credentials, .jobs run.id, some (.error fault)⟩])) ∧
    ∀ jobs, Collecting s token repo workflow credentials run jobs []
      (calls ++ [⟨credentials, .jobs run.id, some (.ok jobs)⟩]) := by
  have scheduled : IsScheduled s.maxPollAttempts (openingCalls ++
      List.replicate looks "list_workflow_runs" ++ [(Call.jobs run.id).endpoint]) :=
    isScheduled_jobs one few 0
  refine ⟨.faulted standing rfl scheduled completed, fun jobs => ?_⟩
  refine ⟨standing.orderly_call rfl scheduled completed _, ⟨looks, one, few, ?_⟩, ?_, ?_, ?_, ?_,
    standing.filled, standing.checked⟩
  · rw [List.map_append, standing.names_eq]
    rfl
  · intro e member
    rcases List.mem_append.mp member with old | new
    · exact .inr (standing.succeeded e old)
    · rw [List.mem_singleton.mp new]
      exact .inr ⟨jobs, rfl⟩
  · rw [List.filterMap_append, standing.unlogged]
    rfl
  · intro other
    rw [← seen]
    simp [SeesCompleted, answered_append_one]
  · intro id all
    rw [answered_append_one, or_iff_right (standing.not_answered id all)]
    constructor
    · rintro ⟨⟩
      exact ⟨rfl, rfl⟩
    · rintro ⟨rfl, rfl⟩
      rfl

/-- The log of the next job may be asked for, however that goes. -/
theorem Collecting.download {run : WorkflowRun} {jobs asked later : List RunJob} {job : RunJob}
    {calls : List CallRecord}
    (collecting : Collecting s token repo workflow credentials run jobs asked calls)
    (left : jobs = asked ++ job :: later) (log : Option (Call.jobLog job.id).Result) :
    Collecting s token repo workflow credentials run jobs (asked ++ [job])
      (calls ++ [⟨credentials, .jobLog job.id, log⟩]) := by
  obtain ⟨looks, one, few, names⟩ := collecting.names_eq
  have named : (calls ++ [CallRecord.mk credentials (.jobLog job.id) log]).map
      CallRecord.endpoint = callSchedule looks (asked ++ [job]).length := by
    simp [names, callSchedule, List.replicate_succ', CallRecord.endpoint, Call.endpoint]
  have logged : (calls ++ [CallRecord.mk credentials (.jobLog job.id) log]).filterMap
      CallRecord.job? = (asked ++ [job]).map RunJob.id := by
    simp [collecting.logs, CallRecord.job?]
  have listed : ∀ id all,
      Answered (calls ++ [CallRecord.mk credentials (.jobLog job.id) log]) (.jobs id) all ↔
        id = run.id ∧ all = jobs := by
    intro id all
    rw [← collecting.listed id all, answered_append_one]
    simp
  refine ⟨collecting.orderly.append_one ?_ ?_ ⟨collecting.filled, collecting.checked⟩
    collecting.succeeded ?_, ⟨looks, one, few, named⟩, ?_, logged, ?_, listed,
    collecting.filled, collecting.checked⟩
  · rw [named]
    exact isScheduled_jobs one few _
  · intro credentials' id all member
    obtain ⟨-, rfl⟩ := (listed id all).mp ⟨credentials', member⟩
    rw [logged, left, List.append_cons asked job later]
    exact (List.prefix_append _ later).map RunJob.id
  · refine ⟨run.id, jobs, (collecting.listed _ _).mpr ⟨rfl, rfl⟩, ?_⟩
    simp [left]
  · intro e member
    rcases List.mem_append.mp member with old | new
    · exact collecting.succeeded e old
    · rw [List.mem_singleton.mp new]
      exact .inl rfl
  · intro other
    rw [← collecting.seen]
    simp [SeesCompleted, answered_append_one]

/-- Telling how the jobs went asks for their logs in the order of the jobs, up to the first one that
is cut short. -/
theorem tellJobs_calls {failed : DeployFault → List SessionTurn → Prop} {run : WorkflowRun}
    {jobs asked later : List RunJob} {skipping : Bool}
    (collecting : Collecting s token repo workflow credentials run jobs asked (callsOf past))
    (left : skipping = false → jobs = asked ++ later) :
    (tellJobs credentials skipping later).Ensures failed
      (fun _ now => ∃ asked,
        Collecting s token repo workflow credentials run jobs asked (callsOf now)) past := by
  induction later generalizing past asked skipping with
  | nil => exact ensures_pure.mpr ⟨asked, collecting⟩
  | cons job later ih =>
    rw [tellJobs, ensures_bind]
    refine tellJob_ensures.imp (fun _ _ held => held) ?_
    rintro skips now (⟨-, rfl, noted⟩ | ⟨before, log, looking, -, noted, told⟩)
    · -- Once logs are skipped no call is made, so it no longer matters which jobs are left.
      exact ih (noted.callsOf_eq ▸ collecting) (by simp)
    · have calls : callsOf now = callsOf past ++ [⟨credentials, .jobLog job.id, log⟩] := by
        rw [told.callsOf_eq, callsOf_download, noted.callsOf_eq]
      have further := collecting.download (left looking) log
      rw [← calls] at further
      exact ih further fun _ => (left looking).trans (by simp)

/-- Collecting the results of a completed run ends with its verdict, or stops the session. -/
theorem collect_calls {target : Target} {run : WorkflowRun} {looks : Nat}
    (standing : Standing s token repo workflow target.credentials
      (openingCalls ++ List.replicate looks "list_workflow_runs") (callsOf past))
    (one : 1 ≤ looks) (few : looks ≤ s.maxPollAttempts)
    (completed : IsCompletedRun (callsOf past) run.id)
    (seen : ∀ other, SeesCompleted (callsOf past) other ↔ other = run) :
    (collect s target run).Ensures (Stops s token repo workflow)
      (fun outcome now => ∃ jobs asked, outcome = verdict run jobs ∧
        Collecting s token repo workflow target.credentials run jobs asked (callsOf now))
      past := by
  have listed := standing.jobs one few completed seen
  simp only [collect, ensures_bind, ensures_enter, ensures_info, ensures_call, Stops,
    outcome_ofRemote, callsOf_enter, callsOf_tell, callsOf_call]
  refine ⟨.halted standing, listed.1, fun jobs => ?_⟩
  have collecting : Collecting s token repo workflow target.credentials run jobs []
      (callsOf (past ++ [⟨.enter .collectingResults, false⟩] ++
        [⟨.tell .info "Fetching job results...", ()⟩] ++
        [⟨.call target.credentials (.jobs run.id), .ok jobs⟩])) := by
    rw [callsOf_call, callsOf_tell, callsOf_enter]
    exact listed.2 jobs
  refine (tellJobs_calls collecting fun _ => rfl).imp (fun _ _ held => held) ?_
  rintro _ now ⟨asked, collecting⟩
  refine tellFailure_ensures.imp (fun _ _ held => held) fun _ later noted => ?_
  rw [ensures_success, ensures_pure, callsOf_tell, noted.callsOf_eq]
  exact ⟨jobs, asked, rfl, collecting⟩

/-! ## The session -/

/-- Whether the credentials or the workflow are refused. -/
def IsRefused (token repo workflow : String) : Prop :=
  (∃ fault, Credentials.check token repo = .error fault) ∨ isBlank workflow = true

/-- Whether the first stage of a session was entered, since it was not cancelled before. -/
def HasEntered (history : List SessionTurn) : Prop :=
  ⟨.enter .validatingCredentials, false⟩ ∈ history

/-- How a session ends, with its outcome and its history. -/
inductive Ends (s : Settings) (token repo workflow : String) :
    Outcome → List SessionTurn → Prop where
  /-- It is cancelled at its start. -/
  | unentered {now : List SessionTurn} (uncalled : callsOf now = []) (unentered : ¬HasEntered now) :
      Ends s token repo workflow .indeterminate now
  /-- What it was given is refused. -/
  | refused {now : List SessionTurn} (uncalled : callsOf now = []) (entered : HasEntered now)
      (refused : IsRefused token repo workflow) : Ends s token repo workflow .failure now
  /-- It stops before the jobs are listed. -/
  | stopped {outcome : Outcome} {now : List SessionTurn}
      (stopped : Stopped s token repo workflow outcome (callsOf now)) :
      Ends s token repo workflow outcome now
  /-- It lists the jobs of a completed run. -/
  | collected {credentials : Credentials} {run : WorkflowRun} {jobs asked : List RunJob}
      {now : List SessionTurn}
      (collecting : Collecting s token repo workflow credentials run jobs asked (callsOf now)) :
      Ends s token repo workflow (verdict run jobs) now

/-- The calls of a session are orderly however it ends. -/
theorem Ends.orderly {outcome : Outcome} {now : List SessionTurn}
    (ends : Ends s token repo workflow outcome now) :
    IsOrderly s token repo workflow (callsOf now) := by
  cases ends with
  | unentered uncalled _ => exact uncalled ▸ isOrderly_nil
  | refused uncalled _ _ => exact uncalled ▸ isOrderly_nil
  | stopped stopped => exact stopped.orderly
  | collected collecting => exact collecting.orderly

/-- One more entry does not change how a session ends. -/
theorem Ends.tell {outcome : Outcome} {now : List SessionTurn} {level : Level} {message : String}
    (ends : Ends s token repo workflow outcome now) :
    Ends s token repo workflow outcome (now ++ [⟨.tell level message, ()⟩]) := by
  have entered : HasEntered (now ++ [⟨.tell level message, ()⟩]) ↔ HasEntered now := by
    simp [HasEntered]
  have calls := callsOf_tell now level message
  cases ends with
  | unentered uncalled unentered =>
    exact .unentered (calls.trans uncalled) (mt entered.mp unentered)
  | refused uncalled hasEntered refused =>
    exact .refused (calls.trans uncalled) (entered.mpr hasEntered) refused
  | stopped stopped => exact .stopped (calls ▸ stopped)
  | collected collecting => exact .collected (calls ▸ collecting)

/-- What follows from the looks ends the session. -/
theorem conclude_calls {target : Target} {polled : Polled}
    (looked : HasLooked s token repo workflow target polled past) :
    (conclude s target polled).Ensures (Stops s token repo workflow)
      (Ends s token repo workflow) past := by
  obtain ⟨looks, few, standing, completes⟩ := looked
  cases polled with
  | completed run =>
    obtain ⟨one, completed, seen⟩ := completes run rfl
    refine (collect_calls standing one few completed seen).imp (fun _ _ held => held) ?_
    rintro _ now ⟨jobs, asked, rfl, collecting⟩
    exact .collected collecting
  | unfinished run =>
    simp only [conclude, ensures_bind, ensures_warning, ensures_info, ensures_pure]
    refine .stopped ?_
    rw [callsOf_tell, callsOf_tell]
    exact .halted standing
  | unseen =>
    simp only [conclude, ensures_bind, ensures_warning, ensures_pure]
    refine .stopped ?_
    rw [callsOf_tell]
    exact .halted standing

/-- A session is cancelled or refused before its first call, or it is under way. -/
theorem validate_calls (uncalled : callsOf past = []) (unentered : ¬HasEntered past) :
    (validate token repo workflow).Ensures
      (fun fault now => Ends s token repo workflow fault.outcome now)
      (fun credentials now =>
        Standing s token repo workflow credentials (openingCalls.take 0) (callsOf now)) past := by
  have uncalled : ∀ cancelled,
      callsOf (past ++ [⟨.enter .validatingCredentials, cancelled⟩]) = [] :=
    fun _ => (callsOf_enter _ _ _).trans uncalled
  have entered : HasEntered (past ++ [⟨.enter .validatingCredentials, false⟩]) := by
    simp [HasEntered]
  rw [validate, ensures_bind, ensures_enter]
  constructor
  · refine .unentered (uncalled true) ?_
    simpa [HasEntered] using unentered
  · cases checked : Credentials.check token repo with
    | error fault =>
      exact ensures_stop.mpr (.refused (uncalled false) entered (.inl ⟨fault, checked⟩))
    | ok credentials =>
      simp only [ensures_ite, ensures_bind, ensures_stop, ensures_pure]
      refine ⟨fun blank => .refused (uncalled false) entered (.inr blank), fun filled => ?_⟩
      rw [uncalled]
      exact ⟨isOrderly_nil, by simp, by simp, by simp, by simp,
        Bool.eq_false_iff.mpr filled, checked⟩

/-- The steps of a session end it in one of the ways in which it may end. -/
theorem steps_ends :
    (steps s token repo workflow).Ensures
      (fun fault now => Ends s token repo workflow fault.outcome now)
      (Ends s token repo workflow) [] := by
  have stops : ∀ fault now, Stops s token repo workflow fault now →
      Ends s token repo workflow fault.outcome now := fun _ _ stopped => .stopped stopped
  -- Each stage starts from what the one before it hands on; one that stops ends the session.
  rw [steps, ensures_bind, ensures_info, ensures_bind]
  refine (validate_calls (callsOf_tell _ _ _) (by simp [HasEntered])).imp
    (fun _ _ held => held) fun credentials _ standing => ?_
  rw [ensures_bind]
  refine (findTarget_calls standing).imp stops ?_
  rintro target _ ⟨rfl, standing, branch⟩
  rw [ensures_bind]
  refine (findBase_calls standing branch).imp stops ?_
  rintro base _ ⟨standing, branch, head, tree⟩
  rw [ensures_bind]
  refine (publish_calls standing branch head tree).imp stops ?_
  rintro _ _ ⟨standing, branch⟩
  rw [ensures_bind]
  refine (findWorkflow_calls standing branch).imp stops ?_
  rintro registered _ ⟨standing, branch, isRegistered⟩
  rw [ensures_bind]
  refine (trigger_calls standing branch isRegistered).imp stops ?_
  rintro _ _ ⟨standing, branch, isRegistered⟩
  rw [ensures_bind]
  refine (awaitRun_calls standing branch isRegistered).imp stops fun _ _ looked => ?_
  exact (conclude_calls looked).imp stops fun _ _ ends => ends

/-- A session ends in one of the ways in which it may end, whatever is answered to it. -/
theorem session_ensures_ends (s : Settings) (token repo workflow : String) :
    Dialogue.Ensures (fun now outcome => Ends s token repo workflow outcome now) []
      (session s token repo workflow) :=
  Session.ensures_ofProcedure.mpr (steps_ends.imp (fun _ _ ends => ends.tell) fun _ _ ends => ends)

/-- A session ends in one of the ways in which it may end, whatever the service answers and whenever
it is cancelled: a partner may give any answer at all to any question, and change what it answers
later. -/
theorem session_ends {σ : Type} (s : Settings) (token repo workflow : String)
    (partner : σ → (act : Act) → act.Answer × σ) (state : σ) :
    Ends s token repo workflow ((session s token repo workflow).play partner state).1
      ((session s token repo workflow).history partner state) :=
  (session_ensures_ends s token repo workflow).play partner state

/-- The calls of a session are orderly, whatever the service answers to them and whenever the
session is cancelled. -/
theorem session_calls_orderly {σ : Type} (s : Settings) (token repo workflow : String)
    (partner : σ → (act : Act) → act.Answer × σ) (state : σ) :
    IsOrderly s token repo workflow
      (callsOf ((session s token repo workflow).history partner state)) :=
  (session_ends s token repo workflow partner state).orderly

end Pipewright
