import Pipewright.Proofs.Deployment.CallOrder

/-!
# The outcome of a session

The outcome of a session can be read off its history: it succeeded when the jobs of a completed run
were listed and everything passed, it failed when something was refused, a call failed or something
listed did not pass, and nothing is known otherwise (`IsDecided`). Each way in which a session ends
is looked at once. Nothing after the list of jobs counts, since no two endings with the same history
up to there have different outcomes (`Ends.outcome_eq`).
-/
namespace Pipewright

open Procedure Deployment

/-! ## What counts -/

/-- Whether a conclusion is one of those that pass. -/
def IsPassed (conclusion : Option String) : Prop :=
  conclusion = some "success" ∨ conclusion = some "skipped" ∨ conclusion = some "neutral"

/-- The check of a conclusion is whether it is one of those that pass. -/
theorem isPassing_iff {conclusion : Option String} :
    isPassing conclusion = true ↔ IsPassed conclusion := by
  simp [isPassing, IsPassed, or_assoc]

/-- The conclusions of a run and of its jobs. -/
def conclusions (run : WorkflowRun) (jobs : List RunJob) : List (Option String) :=
  run.conclusion :: jobs.map RunJob.conclusion

/-- A verdict is a success when everything passed. -/
theorem verdict_eq_success_iff {run : WorkflowRun} {jobs : List RunJob} :
    verdict run jobs = .success ↔ ∀ c ∈ conclusions run jobs, IsPassed c := by
  have passes : (isPassing run.conclusion && jobs.all fun job => isPassing job.conclusion) = true ↔
      ∀ c ∈ conclusions run jobs, IsPassed c := by
    simp [conclusions, isPassing_iff]
  rw [← passes, verdict]
  split <;> simp [*]

/-- A verdict is a failure when something did not pass. -/
theorem verdict_eq_failure_iff {run : WorkflowRun} {jobs : List RunJob} :
    verdict run jobs = .failure ↔ ∃ c ∈ conclusions run jobs, ¬IsPassed c := by
  have other : verdict run jobs = .failure ↔ ¬verdict run jobs = .success := by
    unfold verdict
    split <;> simp
  rw [other, verdict_eq_success_iff]
  simp

/-- Whether the jobs of a run that was seen completed have been listed. -/
def IsCollected (calls : List CallRecord) (run : WorkflowRun) (jobs : List RunJob) : Prop :=
  SeesCompleted calls run ∧ Answered calls (.jobs run.id) jobs

/-- Whether the results of a completed run have been collected and everything passed. -/
def HasPassed (calls : List CallRecord) : Prop :=
  ∃ run jobs, IsCollected calls run jobs ∧ ∀ c ∈ conclusions run jobs, IsPassed c

/-- Whether the results of a completed run have been collected and something did not pass. -/
def HasNotPassed (calls : List CallRecord) : Prop :=
  ∃ run jobs, IsCollected calls run jobs ∧ ∃ c ∈ conclusions run jobs, ¬IsPassed c

/-- Whether a call that does not ask for a log has failed. -/
def HasFault (calls : List CallRecord) : Prop :=
  ∃ r ∈ calls, r.job? = none ∧ ∃ fault, r.result = some (.error fault)

/-- Whether there is a reason for a session to fail: another one is under way, what it was given is
refused, a call failed, or something did not pass. -/
def HasFailed (token repo workflow : String) (busy : Bool) (history : List SessionTurn) : Prop :=
  busy = true ∨ (HasEntered history ∧ IsRefused token repo workflow) ∨
    HasFault (callsOf history) ∨ HasNotPassed (callsOf history)

/-- The outcome that a history decides. -/
structure IsDecided (token repo workflow : String) (busy : Bool) (history : List SessionTurn)
    (outcome : Outcome) : Prop where
  /-- Success is when everything passed. -/
  success_iff : outcome = .success ↔ HasPassed (callsOf history)
  /-- Failure is when there is a reason for it. -/
  failure_iff : outcome = .failure ↔ HasFailed token repo workflow busy history
  /-- Nothing is known in every other case. -/
  indeterminate_iff : outcome = .indeterminate ↔
    ¬HasPassed (callsOf history) ∧ ¬HasFailed token repo workflow busy history

variable {s : Settings} {token repo workflow : String} {credentials : Credentials}
  {names : List String} {calls : List CallRecord} {now : List SessionTurn} {outcome : Outcome}

/-- When success and failure are decided, so is the rest, since there is no other outcome. -/
theorem isDecided_of_iff {busy : Bool} (success_iff : outcome = .success ↔ HasPassed (callsOf now))
    (failure_iff : outcome = .failure ↔ HasFailed token repo workflow busy now) :
    IsDecided token repo workflow busy now outcome := by
  refine ⟨success_iff, failure_iff, ?_⟩
  rw [← success_iff, ← failure_iff]
  cases outcome <;> simp

/-- Credentials and a workflow that pass are not refused. -/
theorem not_isRefused (filled : isBlank workflow = false)
    (checked : Credentials.check token repo = .ok credentials) :
    ¬IsRefused token repo workflow := by
  rintro (⟨fault, refused⟩ | blank)
  · rw [checked] at refused
    cases refused
  · rw [filled] at blank
    cases blank

/-- No call has failed when each asked for a log or succeeded. -/
theorem not_hasFault (succeeded : ∀ r ∈ calls, r.job?.isSome ∨ r.Succeeded) : ¬HasFault calls := by
  rintro ⟨r, member, unlogged, fault, failed⟩
  rcases succeeded r member with logged | ⟨reply, replied⟩
  · rw [unlogged] at logged
    cases logged
  · rw [failed] at replied
    cases replied

/-! ## Before the jobs are listed -/

/-- A session that stops before the jobs are listed was not refused. -/
theorem Stopped.unrefused (stopped : Stopped s token repo workflow outcome calls) :
    ¬IsRefused token repo workflow := by
  cases stopped with
  | halted standing => exact not_isRefused standing.filled standing.checked
  | faulted standing _ _ _ _ => exact not_isRefused standing.filled standing.checked

/-- A session that stops before the jobs are listed has not listed them. -/
theorem Stopped.not_answered (stopped : Stopped s token repo workflow outcome calls)
    (id : UInt64) (jobs : List RunJob) : ¬Answered calls (.jobs id) jobs := by
  cases stopped with
  | halted standing => exact standing.not_answered id jobs
  | faulted standing _ _ _ fault =>
    intro answered
    rcases answered_append_one.mp answered with old | new
    · exact standing.not_answered id jobs old
    · cases new

/-- A session that stops before the jobs are listed fails when a call did. -/
theorem Stopped.outcome_eq (stopped : Stopped s token repo workflow outcome calls) :
    outcome ≠ .success ∧ (outcome = .failure ↔ HasFault calls) := by
  cases stopped with
  | halted standing =>
    have faultless := not_hasFault fun r member => .inr (standing.succeeded r member)
    exact ⟨nofun, nofun, fun faulty => absurd faulty faultless⟩
  | @faulted credentials names calls c standing unlogged _ _ fault =>
    have faulty : HasFault (calls ++ [⟨credentials, c, some (.error fault)⟩]) :=
      ⟨_, List.mem_append_right _ (List.mem_singleton_self _), unlogged, fault, rfl⟩
    exact ⟨nofun, fun _ => faulty, fun _ => rfl⟩

/-! ## After the jobs are listed -/

section Collecting

variable {run : WorkflowRun} {jobs asked : List RunJob}

/-- The results are those of the one run and its one list of jobs. -/
theorem Collecting.isCollected_iff
    (collecting : Collecting s token repo workflow credentials run jobs asked calls)
    {other : WorkflowRun} {all : List RunJob} :
    IsCollected calls other all ↔ other = run ∧ all = jobs := by
  rw [IsCollected, collecting.seen, collecting.listed]
  constructor
  · rintro ⟨rfl, -, rfl⟩
    exact ⟨rfl, rfl⟩
  · rintro ⟨rfl, rfl⟩
    exact ⟨rfl, rfl, rfl⟩

/-- The verdict is a success when everything passed. -/
theorem Collecting.verdict_success_iff
    (collecting : Collecting s token repo workflow credentials run jobs asked calls) :
    verdict run jobs = .success ↔ HasPassed calls := by
  rw [verdict_eq_success_iff]
  constructor
  · exact fun passed => ⟨run, jobs, collecting.isCollected_iff.mpr ⟨rfl, rfl⟩, passed⟩
  · rintro ⟨other, all, collected, passed⟩
    obtain ⟨rfl, rfl⟩ := collecting.isCollected_iff.mp collected
    exact passed

/-- The verdict is a failure when something did not pass. -/
theorem Collecting.verdict_failure_iff
    (collecting : Collecting s token repo workflow credentials run jobs asked calls) :
    verdict run jobs = .failure ↔ HasNotPassed calls := by
  rw [verdict_eq_failure_iff]
  constructor
  · exact fun failed => ⟨run, jobs, collecting.isCollected_iff.mpr ⟨rfl, rfl⟩, failed⟩
  · rintro ⟨other, all, collected, failed⟩
    obtain ⟨rfl, rfl⟩ := collecting.isCollected_iff.mp collected
    exact failed

end Collecting

/-! ## The session -/

/-- Without a list of jobs nothing has passed, nor has anything been found not to. -/
theorem uncollected (unanswered : ∀ id jobs, ¬Answered calls (.jobs id) jobs) :
    ¬HasPassed calls ∧ ¬HasNotPassed calls :=
  ⟨fun ⟨_, _, collected, _⟩ => unanswered _ _ collected.2,
    fun ⟨_, _, collected, _⟩ => unanswered _ _ collected.2⟩

/-- Without a call none has been answered. -/
theorem not_answered_nil {c : Call} {reply : c.Reply} : ¬Answered [] c reply :=
  fun ⟨_, member⟩ => List.not_mem_nil member

/-- However a session ends, its history decides its outcome. -/
theorem Ends.decided (ends : Ends s token repo workflow outcome now) :
    IsDecided token repo workflow false now outcome := by
  have faultless : ¬HasFault [] := fun ⟨_, member, _⟩ => List.not_mem_nil member
  cases ends with
  | unentered uncalled unentered =>
    obtain ⟨unpassed, unfailed⟩ := @uncollected [] fun _ _ => not_answered_nil
    rw [← uncalled] at unpassed unfailed faultless
    exact isDecided_of_iff (by simp [unpassed])
      (by simp [HasFailed, unentered, faultless, unfailed])
  | refused uncalled entered refused =>
    obtain ⟨unpassed, unfailed⟩ := @uncollected [] fun _ _ => not_answered_nil
    rw [← uncalled] at unpassed unfailed faultless
    exact isDecided_of_iff (by simp [unpassed]) (by simp [HasFailed, entered, refused])
  | stopped stopped =>
    obtain ⟨unpassed, unfailed⟩ := uncollected stopped.not_answered
    obtain ⟨unsuccessful, failure_iff⟩ := stopped.outcome_eq
    exact isDecided_of_iff (by simp [unpassed, unsuccessful])
      (by simp [HasFailed, stopped.unrefused, failure_iff, unfailed])
  | collected collecting =>
    have unrefused := not_isRefused collecting.filled collecting.checked
    exact isDecided_of_iff collecting.verdict_success_iff
      (by simp [HasFailed, unrefused, not_hasFault collecting.succeeded,
        collecting.verdict_failure_iff])

/-- A session that has listed jobs ends with the verdict on them and on the one completed run. -/
theorem Ends.verdict_of_answered (ends : Ends s token repo workflow outcome now) {id : UInt64}
    {jobs : List RunJob} (answered : Answered (callsOf now) (.jobs id) jobs) :
    ∃ run, outcome = verdict run jobs ∧
      ∀ other, SeesCompleted (callsOf now) other → other = run := by
  cases ends with
  | unentered uncalled _ => exact absurd (uncalled ▸ answered) not_answered_nil
  | refused uncalled _ _ => exact absurd (uncalled ▸ answered) not_answered_nil
  | stopped stopped => exact absurd answered (stopped.not_answered id jobs)
  | @collected _ run all _ _ collecting =>
    obtain ⟨-, rfl⟩ := (collecting.listed id jobs).mp answered
    exact ⟨run, rfl, fun other => (collecting.seen other).mp⟩

/-- What comes after the list of the jobs does not change the outcome. -/
theorem Ends.outcome_eq {past later later' : List SessionTurn} {id : UInt64}
    {result : (Call.jobs id).Result} {outcome' : Outcome}
    (ends : Ends s token repo workflow outcome
      (past ++ ⟨.call credentials (.jobs id), result⟩ :: later))
    (ends' : Ends s token repo workflow outcome'
      (past ++ ⟨.call credentials (.jobs id), result⟩ :: later')) :
    outcome = outcome' := by
  have calls : ∀ later, callsOf (past ++ ⟨.call credentials (.jobs id), result⟩ :: later) =
      callsOf past ++ ⟨credentials, .jobs id, some result⟩ :: callsOf later := by
    intro later
    simp [callsOf, CallRecord.ofTurn?]
  cases result with
  | error fault =>
    have fails : ∀ later outcome, Ends s token repo workflow outcome
        (past ++ ⟨.call credentials (.jobs id), .error fault⟩ :: later) → outcome = .failure := by
      intro later outcome ends
      refine ends.decided.failure_iff.mpr (.inr (.inr (.inl ?_)))
      rw [calls]
      exact ⟨_, List.mem_append_right _ List.mem_cons_self, rfl, fault, rfl⟩
    rw [fails later outcome ends, fails later' outcome' ends']
  | ok jobs =>
    have answered : ∀ later, Answered
        (callsOf (past ++ ⟨.call credentials (.jobs id), .ok jobs⟩ :: later)) (.jobs id) jobs :=
      fun later => ⟨credentials, calls later ▸ List.mem_append_right _ List.mem_cons_self⟩
    -- The run is the one whose jobs are asked for, and that was seen before.
    have threaded : IsCompletedRun (callsOf past) id := ends.orderly.threaded _ _ _ (calls later)
    obtain ⟨seenRun, seen, -⟩ := threaded.seen
    obtain ⟨run, verdict_eq, unique⟩ := ends.verdict_of_answered (answered later)
    obtain ⟨run', verdict_eq', unique'⟩ := ends'.verdict_of_answered (answered later')
    have same : run = run' := by
      rw [← unique seenRun (calls later ▸ seen.append _),
        ← unique' seenRun (calls later' ▸ seen.append _)]
    rw [verdict_eq, verdict_eq', same]

end Pipewright
