import Pipewright.Proofs.Deployment.Attended
import Pipewright.Proofs.Deployment.Closing

/-!
# The entry of a failure

A session that fails tells so once, and one that does not fail never does. What stops a session has
the last word: its entry comes right after it, and nothing comes after that, while a run that failed
is told before the entry of where it can be viewed (`TellsOutcome`). Each way in which a session
closes is looked at once.
-/
namespace Pipewright

open Deployment
open Dialogue (Ensures)

/-- The number of entries that something failed. -/
def errorCount (history : List SessionTurn) : Nat :=
  (entriesOf history).countP fun entry => entry.1 = .error

/-- Whether the jobs of a completed run have been listed. -/
def HasListedJobs (credentials : Credentials) (run : WorkflowRun) (jobs : List RunJob)
    (history : List SessionTurn) : Prop :=
  run.status = "completed" ∧ ⟨.call credentials (.jobs run.id), .ok jobs⟩ ∈ history

/-- Whether a session has a reason to end: it has met a fault, listed the jobs of a completed run,
or taken every look at the run that it may take. -/
def IsFinished (s : Settings) (token repo workflow : String) (history : List SessionTurn) : Prop :=
  (∃ turn ∈ history, (faultOf? s token repo workflow turn).isSome) ∨
    (∃ credentials run jobs, HasListedJobs credentials run jobs history) ∨
    (listingsOf history).length = s.maxPollAttempts

/-- What a session tells of how it ends. -/
structure TellsOutcome (s : Settings) (token repo workflow : String) (outcome : Outcome)
    (history : List SessionTurn) : Prop where
  /-- There is one entry that something failed if the session did, and none otherwise. -/
  errors : errorCount history = if outcome = .failure then 1 else 0
  /-- A fault decides the outcome, and nothing but its entry comes after it. -/
  fault_last : ∀ past turn later fault, history = past ++ turn :: later →
    faultOf? s token repo workflow turn = some fault →
      outcome = fault.outcome ∧ later = tells [(fault.level, fault.line)]
  /-- Nothing comes after an entry that something failed but the one of where a completed run can be
  viewed, and that only after its jobs were listed and no fault was met. -/
  error_last : ∀ past message later, history = past ++ ⟨.tell .error message, ()⟩ :: later →
    later = [] ∨ ∃ credentials run jobs, HasListedJobs credentials run jobs past ∧
      (∀ turn ∈ history, faultOf? s token repo workflow turn = none) ∧
      (⟨.tell .error message, ()⟩ :: later) =
        tells [failureEntry run, viewEntry s credentials.repo run]
  /-- There is an entry that something is uncertain if the outcome is not known. -/
  warned : outcome = .indeterminate → ∃ message, (.warning, message) ∈ entriesOf history
  /-- There is an entry. -/
  told : entriesOf history ≠ []

/-! ## Levels -/

/-- A fault is told as a failure if it makes a session fail. -/
theorem level_eq_error_iff {fault : DeployFault} :
    fault.level = .error ↔ fault.outcome = .failure := by
  cases fault <;> simp [DeployFault.level, DeployFault.outcome]

/-- A fault is told as uncertain if it leaves the outcome unknown. -/
theorem level_of_indeterminate {fault : DeployFault} (unknown : fault.outcome = .indeterminate) :
    fault.level = .warning := if_pos unknown

/-- Turns after turns tell of as many failures as both do. -/
theorem errorCount_append (past later : List SessionTurn) :
    errorCount (past ++ later) = errorCount past + errorCount later := by
  rw [errorCount, entriesOf_append, List.countP_append]
  rfl

/-- Turns of which none tells of a failure tell of none. -/
theorem errorCount_eq_zero {history : List SessionTurn}
    (mild : ∀ turn ∈ history, ∀ entry ∈ entry? turn, entry.1 ≠ .error) :
    errorCount history = 0 := by
  refine List.countP_eq_zero.mpr fun entry member => ?_
  obtain ⟨turn, among, makes⟩ := List.mem_filterMap.mp member
  simpa using mild turn among entry makes

/-- An entry is no fault. -/
theorem faultOf?_of_mem_tells {s : Settings} {token repo workflow : String} {turn : SessionTurn}
    {entries : List (Level × String)} (member : turn ∈ tells entries) :
    faultOf? s token repo workflow turn = none := by
  obtain ⟨entry, -, rfl⟩ := List.mem_map.mp member
  rfl

/-- A fault makes no entry itself. -/
theorem entry?_of_fault {s : Settings} {token repo workflow : String} {turn : SessionTurn}
    {fault : DeployFault} (faulty : faultOf? s token repo workflow turn = some fault) :
    entry? turn = none := by
  obtain ⟨act, answer⟩ := turn
  cases act with
  | tell level message => cases faulty
  | _ => rfl

/-- The entries after the last look tell of no failure. -/
theorem timeoutEntries_mild {s : Settings} {repo : Slug} {latest : Option WorkflowRun} :
    ∀ entry ∈ timeoutEntries s repo latest, entry.1 ≠ .error := by
  cases latest <;> simp [timeoutEntries]

/-- What is not among the first things is among those after them. -/
theorem exists_between_of_not_mem {α : Type} {front back before after : List α} {x : α}
    (split : front ++ back = before ++ x :: after) (absent : x ∉ front) :
    ∃ between, before = front ++ between ∧ back = between ++ x :: after := by
  rcases List.append_eq_append_iff.mp split with ⟨between, same, rest⟩ | ⟨extra, same, rest⟩
  · exact ⟨between, same, rest⟩
  · cases extra with
    | nil => exact ⟨[], by simpa using same.symm, by simpa using rest.symm⟩
    | cons first extra =>
      obtain ⟨rfl, -⟩ := List.cons.inj rest
      exact absurd (same ▸ List.mem_append_right _ List.mem_cons_self) absent

/-! ## The session -/

section Session

variable {s : Settings} {token repo workflow : String} {outcome : Outcome}
  {past now : List SessionTurn} {stage : Option Stage} {looks : Nat}

/-- A session that goes on has not told of a failure. -/
theorem Proceeding.errorCount_eq (proceeding : Proceeding s token repo workflow stage looks now) :
    errorCount now = 0 :=
  errorCount_eq_zero fun turn member => (proceeding.calm turn member).errorless

/-- A fault is no turn of a session that goes on. -/
theorem Proceeding.not_mem_of_fault (proceeding : Proceeding s token repo workflow stage looks now)
    {turn : SessionTurn} {fault : DeployFault}
    (faulty : faultOf? s token repo workflow turn = some fault) : turn ∉ now := by
  intro member
  rw [(proceeding.calm turn member).faultless] at faulty
  cases faulty

/-- An entry that something failed is no turn of a session that goes on. -/
theorem Proceeding.not_mem_of_error (proceeding : Proceeding s token repo workflow stage looks now)
    {message : String} : ⟨.tell .error message, ()⟩ ∉ now :=
  fun member => (proceeding.calm _ member).errorless _ rfl rfl

/-- A session that goes on and then makes entries has met no fault. -/
theorem Proceeding.faultless (proceeding : Proceeding s token repo workflow stage looks past)
    (entries : List (Level × String)) :
    ∀ turn ∈ past ++ tells entries, faultOf? s token repo workflow turn = none := by
  intro turn member
  rcases List.mem_append.mp member with old | new
  · exact (proceeding.calm turn old).faultless
  · exact faultOf?_of_mem_tells new

/-- A session that has met a fault tells how it ends with the entry of that. -/
theorem Halted.tellsOutcome {fault : DeployFault}
    (halted : Halted s token repo workflow fault now) :
    TellsOutcome s token repo workflow fault.outcome
      (now ++ tells [(fault.level, fault.line)]) := by
  obtain ⟨stage, looks, past, turn, rfl, underway, -, faulty⟩ := halted
  have silent : entriesOf [turn] = [] := by simp [entriesOf, entry?_of_fault faulty]
  -- A turn that is not in the calm beginning is the fault or its entry.
  have splits : ∀ {before other later},
      past ++ [turn] ++ tells [(fault.level, fault.line)] = before ++ other :: later →
      other ∉ past → (other = turn ∧ later = tells [(fault.level, fault.line)]) ∨
        (other ∈ tells [(fault.level, fault.line)] ∧ later = []) := by
    intro before other later split absent
    rw [List.append_assoc] at split
    obtain ⟨between, -, rest⟩ := exists_between_of_not_mem split absent
    rcases between with _ | ⟨first, _ | ⟨second, between⟩⟩
    · obtain ⟨rfl, rfl⟩ := List.cons.inj rest
      exact .inl ⟨rfl, rfl⟩
    · obtain ⟨-, rest⟩ := List.cons.inj rest
      obtain ⟨rfl, rfl⟩ := List.cons.inj rest
      exact .inr ⟨List.mem_cons_self, rfl⟩
    · simp [tells] at rest
  refine ⟨?_, ?_, ?_, fun unknown => ⟨fault.line, ?_⟩, ?_⟩
  · rw [errorCount_append, errorCount_append, underway.errorCount_eq]
    simp [errorCount, silent, List.countP_cons, level_eq_error_iff]
  · intro before other later otherFault split otherFaulty
    rcases splits split (underway.not_mem_of_fault otherFaulty) with ⟨rfl, rfl⟩ | ⟨member, -⟩
    · cases Option.some.inj (faulty.symm.trans otherFaulty)
      exact ⟨rfl, rfl⟩
    · rw [faultOf?_of_mem_tells member] at otherFaulty
      cases otherFaulty
  · intro before message later split
    rcases splits split underway.not_mem_of_error with ⟨rfl, -⟩ | ⟨-, last⟩
    · cases faulty
    · exact .inl last
  · rw [entriesOf_append, entriesOf_tells, level_of_indeterminate unknown]
    exact List.mem_append_right _ List.mem_cons_self
  · rw [entriesOf_append, entriesOf_tells]
    simp

/-- A session whose looks are used up tells so. -/
theorem Proceeding.timeout_tellsOutcome
    (proceeding : Proceeding s token repo workflow stage looks past) (repo' : Slug)
    (latest : Option WorkflowRun) :
    TellsOutcome s token repo workflow .indeterminate
      (past ++ tells (timeoutEntries s repo' latest)) := by
  have faultless := proceeding.faultless (timeoutEntries s repo' latest)
  refine ⟨?_, ?_, ?_, fun _ => ?_, ?_⟩
  · rw [errorCount_append, proceeding.errorCount_eq, errorCount, entriesOf_tells,
      List.countP_eq_zero.mpr]
    · rfl
    · simpa using timeoutEntries_mild
  · intro before turn later fault split faulty
    rw [faultless turn (split ▸ List.mem_append_right _ List.mem_cons_self)] at faulty
    cases faulty
  · intro before message later split
    obtain ⟨between, -, rest⟩ := exists_between_of_not_mem split proceeding.not_mem_of_error
    have told : (Level.error, message) ∈ timeoutEntries s repo' latest := by
      rw [← entriesOf_tells (timeoutEntries s repo' latest), rest, entriesOf_append]
      exact List.mem_append_right _ List.mem_cons_self
    exact absurd rfl (timeoutEntries_mild _ told)
  · cases latest <;> simp [timeoutEntries]
  · cases latest <;> simp [timeoutEntries]

/-- A verdict is never that nothing is known. -/
theorem verdict_ne_indeterminate {run : WorkflowRun} {jobs : List RunJob} :
    verdict run jobs ≠ .indeterminate := by
  unfold verdict
  split <;> simp

/-- A session that has collected the results of a run tells what they are. -/
theorem HasListed.tellsOutcome {credentials : Credentials} {run : WorkflowRun} {jobs : List RunJob}
    (hasListed : HasListed s token repo workflow credentials run jobs looks past) :
    TellsOutcome s token repo workflow (verdict run jobs)
      (past ++ tells (closingEntries s credentials.repo run (verdict run jobs))) := by
  have faultless := hasListed.toProceeding.faultless
    (closingEntries s credentials.repo run (verdict run jobs))
  refine ⟨?_, ?_, ?_, fun unknown => absurd unknown verdict_ne_indeterminate, ?_⟩
  · rw [errorCount_append, hasListed.errorCount_eq, errorCount, entriesOf_tells]
    by_cases failed : verdict run jobs = .failure <;>
      simp [closingEntries, failed, failureEntry, viewEntry]
  · intro before turn later fault split faulty
    rw [faultless turn (split ▸ List.mem_append_right _ List.mem_cons_self)] at faulty
    cases faulty
  · intro before message later split
    obtain ⟨between, rfl, rest⟩ := exists_between_of_not_mem split hasListed.not_mem_of_error
    refine .inr ⟨credentials, run, jobs, ⟨hasListed.completed,
      List.mem_append_left _ hasListed.listed⟩, faultless, ?_⟩
    by_cases failed : verdict run jobs = .failure
    · rcases between with _ | ⟨first, _ | ⟨second, between⟩⟩
      · simpa [closingEntries, failed] using rest.symm
      · simp [closingEntries, failed, tells, viewEntry] at rest
      · simp [closingEntries, failed, tells] at rest
    · rcases between with _ | ⟨first, between⟩
      · simp [closingEntries, failed, tells, viewEntry] at rest
      · simp [closingEntries, failed, tells] at rest
  · simp [closingEntries]

/-- However a session closes, it tells how it ends. -/
theorem Closes.tellsOutcome (closes : Closes s token repo workflow outcome now) :
    TellsOutcome s token repo workflow outcome now := by
  cases closes with
  | halted halted => exact halted.tellsOutcome
  | unresolved _ underway _ => exact underway.toProceeding.timeout_tellsOutcome _ _
  | collected _ hasListed => exact hasListed.tellsOutcome

/-- However a session closes, it has a reason to end. -/
theorem Closes.isFinished (closes : Closes s token repo workflow outcome now) :
    IsFinished s token repo workflow now := by
  cases closes with
  | halted halted =>
    obtain ⟨_, _, past, turn, rfl, -, -, faulty⟩ := halted
    exact .inl ⟨turn, by simp, by simp [faulty]⟩
  | unresolved _ underway _ =>
    refine .inr (.inr ?_)
    rw [listingsOf_append_tells, underway.looks_eq]
  | @collected credentials run jobs _ _ _ hasListed =>
    exact .inr (.inl ⟨credentials, run, jobs, hasListed.completed,
      List.mem_append_left _ hasListed.listed⟩)

/-- A session that is refused because another one is under way tells so, and nothing else. -/
theorem refusal_tellsOutcome (s : Settings) (token repo workflow : String) :
    TellsOutcome s token repo workflow .failure
      (tells [(.error, DeployFault.alreadyRunning.line)]) where
  errors := by simp [errorCount]
  fault_last := by
    intro past turn later fault split faulty
    have member : turn ∈ tells [(.error, DeployFault.alreadyRunning.line)] :=
      split ▸ List.mem_append_right _ List.mem_cons_self
    rw [faultOf?_of_mem_tells member] at faulty
    cases faulty
  error_last := by
    intro past message later split
    rcases past with _ | ⟨first, past⟩
    · exact .inl (List.cons.inj split).2.symm
    · simp [tells] at split
  warned := by simp
  told := by simp

end Session

/-- A session tells how it ends, whether or not another one is under way. -/
theorem ensures_tellsOutcome (s : Settings) (token repo workflow : String) (busy : Bool) :
    Ensures (fun now outcome => TellsOutcome s token repo workflow outcome now) []
      (unlessBusy busy (session s token repo workflow)) := by
  cases busy with
  | true => exact fun _ => refusal_tellsOutcome s token repo workflow
  | false => exact (session_closes s token repo workflow).imp fun _ _ closes => closes.tellsOutcome

/-- A session tells how it ends, whatever it was given, whatever the service answers and whenever it
is cancelled: it tells of a failure once if it fails and never otherwise, and what stops it has the
last word. One that is refused because another one is under way tells that alone; any other one
has another reason to end. The report of an attended session holds just what one has told so. -/
theorem session_tells_outcome (s : Settings) (token repo workflow : String) (busy : Bool) :
    (∀ (σ : Type) (partner : σ → (act : Act) → act.Answer × σ) (state : σ),
      TellsOutcome s token repo workflow
          ((unlessBusy busy (session s token repo workflow)).play partner state).1
          ((unlessBusy busy (session s token repo workflow)).history partner state) ∧
        (busy = true → (unlessBusy busy (session s token repo workflow)).history partner state =
          tells [(.error, DeployFault.alreadyRunning.line)]) ∧
        (busy = false → IsFinished s token repo workflow
          ((unlessBusy busy (session s token repo workflow)).history partner state))) ∧
    ∀ (τ : Type) (view : View) (world : τ → (deed : Deed) → deed.Answer × τ) (start : τ),
      ∃ report history,
        (((unlessBusy busy (session s token repo workflow)).report view).play world start).1 =
          report ∧
        TellsOutcome s token repo workflow report.outcome history ∧ report.Shows history := by
  have tells := ensures_tellsOutcome s token repo workflow busy
  constructor
  · intro σ partner state
    refine ⟨tells.play partner state, ?_⟩
    cases busy with
    | true => exact ⟨fun _ => rfl, by simp⟩
    | false =>
      have closes := (session_closes s token repo workflow).play partner state
      rw [List.nil_append] at closes
      exact ⟨by simp, fun _ => closes.isFinished⟩
  · intro τ view world start
    obtain ⟨history, leads, shows⟩ := (Session.ensures_report view _).play world start
    exact ⟨_, history, rfl, tells.leads leads, shows⟩

end Pipewright
