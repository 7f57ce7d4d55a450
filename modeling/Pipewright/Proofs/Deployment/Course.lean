import Pipewright.Proofs.Deployment.Opening
import Pipewright.Proofs.Deployment.Truncation

/-!
# The course of a session

From where a session begins to look at the run, its turns are those that the replies decide. Each
look is a pause and a list of runs, after which the first run is told if its status is new, and is
followed (`replyTurns`); the looks end with the first decisive reply or with the attempts
(`AreTaken`). Each job of a completed run has its entries, and its log until one is not asked for
(`jobTurns`, `fateOf`). So a session is an opening, the turns of its looks and one of four endings,
unless it stops early or is cancelled (`Course`, `session_course`).
-/
namespace Pipewright

open Procedure Deployment

/-! ## Lists of jobs -/

/-- What a call for the jobs of a run is answered. -/
def jobsReply? : SessionTurn → Option (Except RemoteFault (List RunJob))
  | ⟨.call _ (.jobs _), result⟩ => some result
  | _ => none

/-- What calls for jobs are answered, in order. -/
def jobRepliesOf (history : List SessionTurn) : List (Except RemoteFault (List RunJob)) :=
  history.filterMap jobsReply?

/-- The answers of turns after turns come after theirs. -/
@[simp]
theorem jobRepliesOf_append (past later : List SessionTurn) :
    jobRepliesOf (past ++ later) = jobRepliesOf past ++ jobRepliesOf later := List.filterMap_append

/-- Turns that make entries ask for no jobs. -/
@[simp]
theorem jobRepliesOf_tells (entries : List (Level × String)) :
    jobRepliesOf (tells entries) = [] := filterMap_tells (fun _ _ => rfl) entries

/-- Early turns ask for no jobs. -/
theorem AreEarly.jobRepliesOf_eq_nil {past : List SessionTurn} (early : AreEarly past) :
    jobRepliesOf past = [] := by
  refine early.filterMap_eq_nil fun turn isEarly => ?_
  obtain ⟨act, answer⟩ := turn
  cases act with
  | call credentials c =>
    cases c with
    | jobs run => cases isEarly
    | _ => rfl
  | _ => rfl

/-- Whether turns end where a session is found to be cancelled before it asks for jobs. -/
def AreCutShort (now : List SessionTurn) : Prop :=
  ∃ before turn, now = before ++ [turn] ∧ IsCut turn ∧ jobRepliesOf before = []

/-! ## Looks at the run -/

/-- What a look at the run is answered. -/
abbrev RunsReply : Type := Except RemoteFault (List WorkflowRun)

namespace RunsReply

/-- The first run that a look shows. -/
def firstRun? : RunsReply → Option WorkflowRun
  | .ok runs => runs.head?
  | .error _ => none

/-- Whether no more looks follow: the look fails, or its first run is completed. -/
def isDecisive : RunsReply → Bool
  | .ok runs => runs.head?.any fun run => run.status == "completed"
  | .error _ => true

/-- Whether replies are all that are asked for, of that many at most: those up to the first decisive
one. -/
def AreTaken (most : Nat) (replies : List RunsReply) : Prop :=
  replies.length = min most (replies.findIdx isDecisive + 1)

/-- The run that was seen last, after replies, if one was seen last before them. -/
def lastSeen (latest : Option WorkflowRun) (replies : List RunsReply) : Option WorkflowRun :=
  (replies.filterMap firstRun?).getLast?.or latest

variable {most : Nat} {reply : RunsReply} {replies : List RunsReply} {latest : Option WorkflowRun}

/-- Where no reply may be asked for, none is. -/
theorem areTaken_zero : AreTaken 0 [] := (Nat.zero_min _).symm

/-- A decisive reply is the last one. -/
theorem areTaken_singleton (decisive : reply.isDecisive = true) : AreTaken (most + 1) [reply] := by
  have first : [reply].findIdx isDecisive = 0 := by simp [List.findIdx_cons, decisive]
  rw [AreTaken, first, List.length_singleton]
  omega

/-- A reply that is not decisive is followed by those that are asked for then. -/
theorem AreTaken.cons (taken : AreTaken most replies) (undecided : reply.isDecisive = false) :
    AreTaken (most + 1) (reply :: replies) := by
  have later : (reply :: replies).findIdx isDecisive = replies.findIdx isDecisive + 1 := by
    simp [List.findIdx_cons, undecided]
  have length : replies.length = min most (replies.findIdx isDecisive + 1) := taken
  rw [AreTaken, later, List.length_cons]
  omega

/-- The first run of a reply is the one that was seen last before the replies after it. -/
theorem lastSeen_cons :
    lastSeen latest (reply :: replies) = lastSeen (reply.firstRun?.or latest) replies := by
  rw [lastSeen, lastSeen]
  cases first : reply.firstRun? with
  | none => rw [List.filterMap_cons_none first, Option.none_or]
  | some run =>
    rw [List.filterMap_cons_some first, List.getLast?_cons, Option.some_or, Option.some_or]
    cases (replies.filterMap firstRun?).getLast? <;> rfl

end RunsReply

open RunsReply

/-- What looking at the run ends with where a run was seen last. -/
def Polled.ofSeen : Option WorkflowRun → Polled
  | none => .unseen
  | some run => if run.status = "completed" then .completed run else .unfinished run

/-- The entry of the status of a run; that of a completed one has its conclusion. -/
def statusEntry (run : WorkflowRun) : Level × String :=
  (.info,
    if run.status = "queued" then "Workflow run is queued and waiting to start..."
    else if run.status = "in_progress" then "Workflow run is in progress..."
    else if run.status = "completed" then
      "Workflow run completed with conclusion: " ++ run.conclusion.getD "unknown"
    else "Workflow run status: " ++ run.status)

/-- It is what a session tells of a run. -/
theorem statusEntry_eq (run : WorkflowRun) :
    statusEntry run = (.info, (RunStatus.ofName run.status).line run.conclusion) := by
  unfold statusEntry RunStatus.ofName
  split
  · rfl
  · split
    · rfl
    · split
      · rfl
      · rfl

/-- The turns in which a run is noted, where another one was seen before it. -/
def noteTurns (s : Settings) (repo : Slug) (latest : Option WorkflowRun) (run : WorkflowRun) :
    List SessionTurn :=
  (if latest.map WorkflowRun.status = some run.status then [] else tells [statusEntry run]) ++
    [⟨.follow run.id (s.runAddress repo run), ()⟩]

/-- The turns of one look. -/
def replyTurns (s : Settings) (target : Target) (id : UInt64) (latest : Option WorkflowRun)
    (reply : RunsReply) : List SessionTurn :=
  [⟨.pause s.pollInterval, false⟩, ⟨.call target.credentials (.runs id target.branch), reply⟩] ++
    reply.firstRun?.elim [] (noteTurns s target.credentials.repo latest)

/-- The turns of looks. -/
def pollTurns (s : Settings) (target : Target) (id : UInt64) :
    Option WorkflowRun → List RunsReply → List SessionTurn
  | _, [] => []
  | latest, reply :: replies =>
    replyTurns s target id latest reply ++
      pollTurns s target id (reply.firstRun?.or latest) replies

/-- The turns before the first look. -/
def waitingTurns (s : Settings) : List SessionTurn :=
  [⟨.enter .pollingRun, false⟩] ++ tells [(.info, "Waiting for workflow run to start...")] ++
    if s.maxPollAttempts = 0 then [⟨.pause s.pollInterval, false⟩] else []

/-- A look is a pause, a list of runs, and what is noted of the first of them. -/
theorem append_replyTurns (s : Settings) (target : Target) (id : UInt64)
    (latest : Option WorkflowRun) (reply : RunsReply) (past : List SessionTurn) :
    past ++ replyTurns s target id latest reply =
      past ++ [⟨.pause s.pollInterval, false⟩] ++
        [⟨.call target.credentials (.runs id target.branch), reply⟩] ++
        reply.firstRun?.elim [] (noteTurns s target.credentials.repo latest) := by
  rw [replyTurns, ← List.append_assoc, List.append_cons]

section Looks

variable {s : Settings} {target : Target} {id : UInt64} {most : Nat} {past : List SessionTurn}
  {latest : Option WorkflowRun}

/-- What neither entries nor followed runs show is not shown where a run is noted. -/
theorem filterMap_noteTurns {α : Type} {view : SessionTurn → Option α}
    (untold : ∀ level message, view ⟨.tell level message, ()⟩ = none)
    (unfollowed : ∀ run url, view ⟨.follow run url, ()⟩ = none) (repo : Slug)
    (latest : Option WorkflowRun) (run : WorkflowRun) :
    (noteTurns s repo latest run).filterMap view = [] := by
  rw [noteTurns, List.filterMap_append, List.filterMap_cons_none (unfollowed _ _)]
  split
  · rfl
  · rw [filterMap_tells untold]
    rfl

/-- A look at the run asks for no jobs. -/
@[simp]
theorem jobRepliesOf_replyTurns (latest : Option WorkflowRun) (reply : RunsReply) :
    jobRepliesOf (replyTurns s target id latest reply) = [] := by
  have looked : jobRepliesOf [⟨.pause s.pollInterval, false⟩,
      ⟨.call target.credentials (.runs id target.branch), reply⟩] = [] := rfl
  rw [replyTurns, jobRepliesOf_append, looked, List.nil_append]
  cases reply.firstRun? with
  | none => rfl
  | some run => exact filterMap_noteTurns (fun _ _ => rfl) (fun _ _ => rfl) _ _ _

/-- Looks at the run ask for no jobs. -/
@[simp]
theorem jobRepliesOf_pollTurns (latest : Option WorkflowRun) (replies : List RunsReply) :
    jobRepliesOf (pollTurns s target id latest replies) = [] := by
  induction replies generalizing latest with
  | nil => rfl
  | cons reply replies ih => rw [pollTurns, jobRepliesOf_append, jobRepliesOf_replyTurns, ih]; rfl

/-- The turns before the first look ask for no jobs. -/
@[simp]
theorem jobRepliesOf_waitingTurns : jobRepliesOf (waitingTurns s) = [] := by
  unfold waitingTurns
  split <;> rfl

/-- Noting a run adds the turns of that. -/
theorem note_turns {failed : DeployFault → List SessionTurn → Prop} {run : WorkflowRun} :
    (note s target latest run).Ensures failed
      (fun _ now => now = past ++ noteTurns s target.credentials.repo latest run) past := by
  simp only [note, ensures_bind, ensures_ite, ensures_info]
  refine ⟨fun new => ensures_question.mpr fun _ => ?_, fun same => ensures_question.mpr fun _ => ?_⟩
  · rw [noteTurns, if_neg new, statusEntry_eq, ← List.append_assoc]
    rfl
  · rw [noteTurns, if_pos (Decidable.not_not.mp same)]
    rfl

/-- How looks at the run stop a session: it is cancelled, or the last of them fails. -/
inductive LookStops (s : Settings) (target : Target) (id : UInt64) (most : Nat)
    (latest : Option WorkflowRun) (past : List SessionTurn) :
    DeployFault → List SessionTurn → Prop where
  /-- It is cancelled. -/
  | cut {now : List SessionTurn} (short : AreCutShort now) :
    LookStops s target id most latest past .cancelled now
  /-- The last look fails. -/
  | failed (replies : List RunsReply) (remote : RemoteFault)
    (taken : AreTaken most (replies ++ [.error remote])) :
    LookStops s target id most latest past (.ofRemote remote)
      (past ++ pollTurns s target id latest (replies ++ [.error remote]))

/-- How looks at the run end otherwise. -/
structure LooksEnd (s : Settings) (target : Target) (id : UInt64) (most : Nat)
    (latest : Option WorkflowRun) (past : List SessionTurn) (replies : List RunsReply)
    (polled : Polled) (now : List SessionTurn) : Prop where
  /-- All looks that may be taken were. -/
  taken : AreTaken most replies
  /-- None failed. -/
  answered : ∀ fault, Except.error fault ∉ replies
  /-- The run that was seen last decides how they end. -/
  polled_eq : polled = .ofSeen (lastSeen latest replies)
  /-- Their turns are those of the replies. -/
  turns : now = past ++ pollTurns s target id latest replies

/-- A look that fails stops a session. -/
theorem LookStops.fails (remote : RemoteFault) :
    LookStops s target id (most + 1) latest past (.ofRemote remote)
      (past ++ [⟨.pause s.pollInterval, false⟩] ++
        [⟨.call target.credentials (.runs id target.branch), .error remote⟩]) := by
  have failed := @LookStops.failed s target id (most + 1) latest past [] remote
    (areTaken_singleton rfl)
  rwa [List.nil_append, pollTurns, pollTurns, List.append_nil, append_replyTurns, firstRun?,
    Option.elim_none, List.append_nil] at failed

/-- Where no look may be taken, none is. -/
theorem looksEnd_zero : LooksEnd s target id 0 latest past [] (.ofSeen latest) past :=
  ⟨areTaken_zero, fun _ => List.not_mem_nil, rfl, (List.append_nil past).symm⟩

/-- Looks end with the first that shows a completed run. -/
theorem looksEnd_completed {run : WorkflowRun} (completed : run.status = "completed")
    (others : List WorkflowRun) :
    LooksEnd s target id (most + 1) latest past [.ok (run :: others)] (.completed run)
      (past ++ replyTurns s target id latest (.ok (run :: others))) where
  taken := areTaken_singleton (by simp [isDecisive, completed])
  answered := by simp
  polled_eq := by
    have seen : lastSeen latest [.ok (run :: others)] = some run := rfl
    rw [seen, Polled.ofSeen, if_pos completed]
  turns := by rw [pollTurns, pollTurns, List.append_nil]

/-- Looks that stop a session stop it after one look more. -/
theorem LookStops.cons {reply : RunsReply} {fault : DeployFault} {now : List SessionTurn}
    (stops : LookStops s target id most (reply.firstRun?.or latest)
      (past ++ replyTurns s target id latest reply) fault now)
    (undecided : reply.isDecisive = false) :
    LookStops s target id (most + 1) latest past fault now := by
  cases stops with
  | cut short => exact .cut short
  | failed replies remote taken =>
    rw [List.append_assoc past]
    exact .failed (reply :: replies) remote (taken.cons undecided)

/-- Looks that end otherwise do so after one look more. -/
theorem LooksEnd.cons {reply : RunsReply} {replies : List RunsReply} {polled : Polled}
    {now : List SessionTurn}
    (ends : LooksEnd s target id most (reply.firstRun?.or latest)
      (past ++ replyTurns s target id latest reply) replies polled now)
    (undecided : reply.isDecisive = false) :
    LooksEnd s target id (most + 1) latest past (reply :: replies) polled now where
  taken := ends.taken.cons undecided
  answered := by
    intro fault member
    rcases List.mem_cons.mp member with same | later
    · rw [← same] at undecided
      cases undecided
    · exact ends.answered fault later
  polled_eq := by rw [lastSeen_cons, ends.polled_eq]
  turns := by rw [ends.turns, pollTurns, List.append_assoc]

/-- Looks at the run have the turns of their replies, which are all that may be asked for. -/
theorem poll_turns (unfinished : ∀ run ∈ latest, run.status ≠ "completed")
    (unasked : jobRepliesOf past = []) :
    (poll s target id most latest).Ensures (LookStops s target id most latest past)
      (fun polled now => ∃ replies, LooksEnd s target id most latest past replies polled now)
      past := by
  -- Each look that is not decisive leaves one attempt less and the run that it has shown.
  induction most generalizing past latest with
  | zero =>
    have ends : LooksEnd s target id 0 latest past [] (.ofSeen latest) past := looksEnd_zero
    cases latest with
    | none => exact ensures_pure.mpr ⟨[], ends⟩
    | some run =>
      rw [Polled.ofSeen, if_neg (unfinished run rfl)] at ends
      exact ensures_pure.mpr ⟨[], ends⟩
  | succ most ih =>
    simp only [poll, look, ensures_bind, ensures_pause, ensures_call, ensures_pure]
    refine ⟨.cut ⟨past, _, rfl, rfl, unasked⟩, .fails, fun runs => ?_⟩
    have looked := append_replyTurns s target id latest (.ok runs) past
    have unasked : jobRepliesOf (past ++ replyTurns s target id latest (.ok runs)) = [] := by
      rw [jobRepliesOf_append, unasked, jobRepliesOf_replyTurns, List.nil_append]
    cases runs with
    | nil =>
      have undecided : isDecisive (.ok []) = false := rfl
      rw [firstRun?, List.head?_nil, Option.elim_none, List.append_nil] at looked
      rw [List.head?_nil, ← looked]
      refine (ih unfinished unasked).imp (fun _ _ stops => stops.cons undecided) ?_
      rintro polled now ⟨replies, ends⟩
      exact ⟨_, ends.cons undecided⟩
    | cons run others =>
      rw [firstRun?, List.head?_cons, Option.elim_some] at looked
      rw [List.head?_cons]
      refine ensures_bind.mpr (note_turns.imp (fun _ _ stops => stops) ?_)
      rintro _ _ rfl
      rw [← looked, ensures_ite, ensures_pure, ofName_eq_completed]
      constructor
      · intro completed
        exact ⟨_, looksEnd_completed completed others⟩
      · intro incomplete
        have undecided : isDecisive (.ok (run :: others)) = false := by
          simp [isDecisive, incomplete]
        have seen : ∀ latest ∈ some run, latest.status ≠ "completed" := by
          rintro _ ⟨⟩
          exact incomplete
        refine (ih seen unasked).imp (fun _ _ stops => stops.cons undecided) ?_
        rintro polled now ⟨replies, ends⟩
        exact ⟨_, ends.cons undecided⟩

end Looks

/-! ## Jobs -/

/-- What becomes of the log of a job. -/
inductive LogFate where
  /-- It is asked for, with a result unless the session is cancelled. -/
  | asked (log : Option (Except RemoteFault String))
  /-- It is passed over, since the session was cancelled at one before it. -/
  | skipped

/-- What becomes of the log of the job at an index, where these logs were taken. -/
def fateOf (taken : List (Except RemoteFault String)) (index : Nat) : LogFate :=
  match taken[index]? with
  | some reply => .asked (some reply)
  | none => if index = taken.length then .asked none else .skipped

/-- The entries of every job. -/
def headEntries (job : RunJob) : List (Level × String) :=
  [(.info, "Job: " ++ job.name), (.info, "Status: " ++ job.status ++ ", Conclusion: "
    ++ job.conclusion.getD "pending")]

/-- The entry that a log is asked for. -/
def fetchEntry (job : RunJob) : Level × String :=
  (.info, "Fetching logs for job \"" ++ job.name ++ "\"...")

/-- The entries of a log. -/
def logEntries : Except RemoteFault String → List (Level × String)
  | .ok log => (logLines log).map fun line => (.info, line)
  | .error _ => [(.warning, "Could not retrieve logs for this job.")]

/-- The entry that logs are passed over from now on. -/
def skipEntry : Level × String :=
  (.warning, "⚠️ Deployment cancelled; skipping remaining job logs")

/-- The turns of a job, by what becomes of its log. -/
def jobTurns (credentials : Credentials) (job : RunJob) : LogFate → List SessionTurn
  | .asked log =>
    tells (headEntries job ++ [fetchEntry job]) ++ [⟨.download credentials job.id, log⟩] ++
      tells (log.elim [skipEntry] logEntries)
  | .skipped => tells (headEntries job)

/-- The turns of jobs, where these logs were taken. -/
def jobsTurns (credentials : Credentials) (jobs : List RunJob)
    (taken : List (Except RemoteFault String)) : List SessionTurn :=
  (jobs.mapIdx fun index job => jobTurns credentials job (fateOf taken index)).flatten

section Jobs

variable {credentials : Credentials} {job : RunJob} {jobs : List RunJob}
  {past : List SessionTurn} {failed : DeployFault → List SessionTurn → Prop}

/-- After the first log, what becomes of the others does not depend on it. -/
theorem fateOf_cons_succ (reply : Except RemoteFault String)
    (taken : List (Except RemoteFault String)) (index : Nat) :
    fateOf (reply :: taken) (index + 1) = fateOf taken index := by
  simp [fateOf]

/-- Where the first log was taken, the turns of the first job are those of that. -/
theorem jobsTurns_cons (reply : Except RemoteFault String)
    (taken : List (Except RemoteFault String)) :
    jobsTurns credentials (job :: jobs) (reply :: taken) =
      jobTurns credentials job (.asked (some reply)) ++ jobsTurns credentials jobs taken := by
  have first : fateOf (reply :: taken) 0 = .asked (some reply) := rfl
  simp only [jobsTurns, List.mapIdx_cons, List.flatten_cons, first, fateOf_cons_succ]

/-- Where no log was taken, the session was cancelled at the first, and the others are passed over. -/
theorem jobsTurns_cons_nil :
    jobsTurns credentials (job :: jobs) [] =
      jobTurns credentials job (.asked none) ++
        (jobs.map fun job => jobTurns credentials job .skipped).flatten := by
  have first : fateOf [] 0 = .asked none := rfl
  have later : ∀ index, fateOf [] (index + 1) = .skipped := fun _ => rfl
  have passed : (jobs.mapIdx fun _ job => jobTurns credentials job .skipped) =
      jobs.map fun job => jobTurns credentials job .skipped := by
    induction jobs with
    | nil => rfl
    | cons job jobs ih => rw [List.mapIdx_cons, ih, List.map_cons]
  simp only [jobsTurns, List.mapIdx_cons, List.flatten_cons, first, later, passed]

/-- Telling the lines of a log adds their entries. -/
theorem tellLog_turns (lines : List String) :
    (tellLog lines).Ensures failed
      (fun _ now => now = past ++ tells (lines.map fun line => (.info, line))) past := by
  induction lines generalizing past with
  | nil => exact ensures_pure.mpr (List.append_nil past).symm
  | cons line lines ih =>
    rw [tellLog, ensures_bind, ensures_info]
    refine ih.imp (fun _ _ held => held) fun _ now same => ?_
    rw [same, List.append_assoc]
    rfl

/-- A job whose log is passed over has only the entries of every job. -/
theorem tellJob_turns_skipping :
    (tellJob credentials true job).Ensures failed
      (fun skips now => skips = true ∧ now = past ++ jobTurns credentials job .skipped) past := by
  simp only [tellJob, ensures_bind, ensures_info, ensures_ite, ensures_pure]
  exact ⟨fun _ => ⟨trivial, List.append_assoc _ _ _⟩, fun never => absurd trivial never⟩

/-- A job whose log is asked for has the turns of that; logs are passed over from now on if the
session was cancelled. -/
theorem tellJob_turns :
    (tellJob credentials false job).Ensures failed
      (fun skips now => ∃ log, skips = log.isNone ∧
        now = past ++ jobTurns credentials job (.asked log)) past := by
  have asked (log : Option (Except RemoteFault String)) (entries : List (Level × String))
      (made : log.elim [skipEntry] logEntries = entries) :
      past ++ [⟨.tell .info ("Job: " ++ job.name), ()⟩] ++ [⟨.tell .info ("Status: " ++ job.status
        ++ ", Conclusion: " ++ job.conclusion.getD "pending"), ()⟩] ++
        [⟨.tell .info ("Fetching logs for job \"" ++ job.name ++ "\"..."), ()⟩] ++
        [⟨.download credentials job.id, log⟩] ++ tells entries =
      past ++ jobTurns credentials job (.asked log) := by
    simp [jobTurns, headEntries, fetchEntry, tells, made]
  simp only [tellJob, ensures_bind, ensures_info, ensures_ite, ensures_pure]
  refine ⟨fun never => absurd never Bool.false_ne_true, fun _ => ensures_question.mpr ?_⟩
  rintro (_ | fault | log)
  · rw [ensures_bind, ensures_warning]
    exact ⟨none, rfl, asked none [skipEntry] rfl⟩
  · rw [ensures_bind, ensures_warning]
    exact ⟨some (.error fault), rfl, asked (some (.error fault)) _ rfl⟩
  · rw [ensures_bind]
    refine (tellLog_turns (logLines log)).imp (fun _ _ held => held) ?_
    rintro _ _ rfl
    exact ⟨some (.ok log), rfl, asked (some (.ok log)) _ rfl⟩

/-- Jobs whose logs are passed over have only the entries of every job. -/
theorem tellJobs_turns_skipping :
    (tellJobs credentials true jobs).Ensures failed
      (fun _ now => now =
        past ++ (jobs.map fun job => jobTurns credentials job .skipped).flatten) past := by
  induction jobs generalizing past with
  | nil => exact ensures_pure.mpr (List.append_nil past).symm
  | cons job jobs ih =>
    rw [tellJobs, ensures_bind]
    refine tellJob_turns_skipping.imp (fun _ _ held => held) ?_
    rintro _ _ ⟨rfl, rfl⟩
    refine ih.imp (fun _ _ held => held) fun _ now same => ?_
    rw [same, List.map_cons, List.flatten_cons, List.append_assoc]

/-- Jobs have the turns of the logs that were taken. -/
theorem tellJobs_turns :
    (tellJobs credentials false jobs).Ensures failed
      (fun _ now => ∃ taken : List (Except RemoteFault String), taken.length ≤ jobs.length ∧
        now = past ++ jobsTurns credentials jobs taken) past := by
  induction jobs generalizing past with
  | nil => exact ensures_pure.mpr ⟨[], Nat.le_refl _, (List.append_nil past).symm⟩
  | cons job jobs ih =>
    rw [tellJobs, ensures_bind]
    refine tellJob_turns.imp (fun _ _ held => held) ?_
    rintro _ _ ⟨_ | reply, rfl, rfl⟩
    · refine tellJobs_turns_skipping.imp (fun _ _ held => held) ?_
      rintro _ _ rfl
      refine ⟨[], Nat.zero_le _, ?_⟩
      rw [jobsTurns_cons_nil, List.append_assoc]
    · refine ih.imp (fun _ _ held => held) ?_
      rintro _ _ ⟨taken, few, rfl⟩
      refine ⟨reply :: taken, Nat.succ_le_succ few, ?_⟩
      rw [jobsTurns_cons, List.append_assoc]

/-- What neither entries nor downloads show is not shown by the turns of jobs. -/
theorem filterMap_jobsTurns {α : Type} {view : SessionTurn → Option α}
    (untold : ∀ level message, view ⟨.tell level message, ()⟩ = none)
    (downloaded : ∀ credentials job log, view ⟨.download credentials job, log⟩ = none)
    (credentials : Credentials) (jobs : List RunJob) (taken : List (Except RemoteFault String)) :
    (jobsTurns credentials jobs taken).filterMap view = [] := by
  have one : ∀ job fate, (jobTurns credentials job fate).filterMap view = [] := by
    intro job fate
    cases fate with
    | asked log =>
      rw [jobTurns, List.filterMap_append, List.filterMap_append, filterMap_tells untold,
        filterMap_tells untold, List.filterMap_cons_none (downloaded _ _ _)]
      rfl
    | skipped => exact filterMap_tells untold _
  refine List.filterMap_eq_nil_iff.mpr fun turn member => ?_
  obtain ⟨turns, block, member⟩ := List.mem_flatten.mp member
  obtain ⟨index, bound, rfl⟩ := List.mem_mapIdx.mp block
  exact List.filterMap_eq_nil_iff.mp (one _ _) turn member

end Jobs

/-! ## Endings -/

/-- The turns before the jobs of a run are listed. -/
def resultTurns : List SessionTurn :=
  [⟨.enter .collectingResults, false⟩] ++ tells [(.info, "Fetching job results...")]

/-- The entry of a fault. -/
def faultEntry (fault : DeployFault) : Level × String := (fault.level, fault.line)

/-- How a session ends after looks at the run that were answered so: with an outcome and turns. -/
inductive Concludes (s : Settings) (target : Target) (replies : List RunsReply) :
    Outcome → List SessionTurn → Prop where
  /-- The last look failed. -/
  | failed {remote : RemoteFault} (last : replies.getLast? = some (.error remote)) :
    Concludes s target replies (DeployFault.ofRemote remote).outcome
      (tells [faultEntry (.ofRemote remote)])
  /-- No run was seen completed. -/
  | timedOut (answered : ∀ fault, Except.error fault ∉ replies)
    (unfinished : ∀ run ∈ lastSeen none replies, run.status ≠ "completed") :
    Concludes s target replies .indeterminate
      (tells (timeoutEntries s target.credentials.repo (lastSeen none replies)))
  /-- A run was seen completed, but its jobs were not listed. -/
  | unlisted {run : WorkflowRun} {remote : RemoteFault}
    (answered : ∀ fault, Except.error fault ∉ replies) (seen : lastSeen none replies = some run)
    (completed : run.status = "completed") :
    Concludes s target replies (DeployFault.ofRemote remote).outcome
      (resultTurns ++ [⟨.call target.credentials (.jobs run.id), .error remote⟩] ++
        tells [faultEntry (.ofRemote remote)])
  /-- A run was seen completed, its jobs were listed, and these logs were taken. -/
  | collected {run : WorkflowRun} {jobs : List RunJob} {taken : List (Except RemoteFault String)}
    (answered : ∀ fault, Except.error fault ∉ replies) (seen : lastSeen none replies = some run)
    (completed : run.status = "completed") (few : taken.length ≤ jobs.length) :
    Concludes s target replies (verdict run jobs)
      (resultTurns ++ [⟨.call target.credentials (.jobs run.id), .ok jobs⟩] ++
        jobsTurns target.credentials jobs taken ++
        tells (closingEntries s target.credentials.repo run (verdict run jobs)))

/-- The course of a session, with its outcome. -/
inductive Course (s : Settings) (token repo : String) : Outcome → List SessionTurn → Prop where
  /-- It stops before it looks at the run, and tells why. -/
  | early {outcome : Outcome} {opening : List SessionTurn} (fault : DeployFault)
    (early : AreEarly opening) : Course s token repo outcome (opening ++ tells [faultEntry fault])
  /-- It is cancelled before it asks for jobs. -/
  | cut {past : List SessionTurn} {turn : SessionTurn} (cut : IsCut turn)
    (unasked : jobRepliesOf past = []) :
    Course s token repo .indeterminate (past ++ [turn] ++ tells [faultEntry .cancelled])
  /-- It looks at the run and ends after that. -/
  | looked {outcome : Outcome} {target : Target} {id : UInt64} {opening ending : List SessionTurn}
    {replies : List RunsReply} (checked : Credentials.check token repo = .ok target.credentials)
    (opens : IsOpening s.registrationDelay opening)
    (triggered : (entriesOf opening).getLast? = some (.success, "✅ Workflow triggered successfully"))
    (taken : AreTaken s.maxPollAttempts replies)
    (concludes : Concludes s target replies outcome ending) :
    Course s token repo outcome
      (opening ++ waitingTurns s ++ pollTurns s target id none replies ++ ending)

section Endings

variable {s : Settings} {token repo workflow : String} {target : Target} {id : UInt64}
  {past : List SessionTurn}

/-- Looking at the run stops a session, or its looks end after the turns before the first one. -/
theorem awaitRun_turns {registered : RemoteWorkflow} (unasked : jobRepliesOf past = []) :
    (awaitRun s target registered).Ensures
      (LookStops s target registered.id s.maxPollAttempts none (past ++ waitingTurns s))
      (fun polled now => ∃ replies, LooksEnd s target registered.id s.maxPollAttempts none
        (past ++ waitingTurns s) replies polled now) past := by
  have waited : jobRepliesOf (past ++ waitingTurns s) = [] := by
    rw [jobRepliesOf_append, unasked, jobRepliesOf_waitingTurns, List.nil_append]
  have polls := @poll_turns s target registered.id s.maxPollAttempts (past ++ waitingTurns s) none
    nofun waited
  have told : jobRepliesOf (past ++ [⟨.enter .pollingRun, false⟩] ++
      [⟨.tell .info "Waiting for workflow run to start...", ()⟩]) = [] := by
    rw [jobRepliesOf_append, jobRepliesOf_append, unasked]
    rfl
  simp only [awaitRun, waitUnlooked, ensures_bind, ensures_enter, ensures_info, ensures_ite,
    ensures_pause, ensures_pure]
  refine ⟨.cut ⟨past, _, rfl, rfl, unasked⟩, fun none => ⟨.cut ⟨_, _, rfl, rfl, told⟩, ?_⟩,
    fun some => ?_⟩
  · rw [waitingTurns, if_pos none, ← List.append_assoc, ← List.append_assoc] at polls ⊢
    exact polls
  · rw [waitingTurns, if_neg some, List.append_nil, ← List.append_assoc] at polls ⊢
    exact polls

/-- Collecting the results of a run stops a session or ends it. -/
theorem collect_turns {run : WorkflowRun} (unasked : jobRepliesOf past = []) :
    (collect s target run).Ensures
      (fun fault now => (fault = .cancelled ∧ AreCutShort now) ∨
        ∃ remote, fault = .ofRemote remote ∧ now = past ++ (resultTurns ++
          [⟨.call target.credentials (.jobs run.id), .error remote⟩]))
      (fun outcome now => ∃ jobs taken, outcome = verdict run jobs ∧ taken.length ≤ jobs.length ∧
        now = past ++ (resultTurns ++ [⟨.call target.credentials (.jobs run.id), .ok jobs⟩] ++
          jobsTurns target.credentials jobs taken ++
          tells (closingEntries s target.credentials.repo run (verdict run jobs)))) past := by
  have asked (result : (Call.jobs run.id).Result) :
      past ++ [⟨.enter .collectingResults, false⟩] ++
        [⟨.tell .info "Fetching job results...", ()⟩] ++
        [⟨.call target.credentials (.jobs run.id), result⟩] =
      past ++ (resultTurns ++ [⟨.call target.credentials (.jobs run.id), result⟩]) := by
    rw [resultTurns, ← List.append_assoc, ← List.append_assoc]
    rfl
  simp only [collect, tellFailure, ensures_bind, ensures_enter, ensures_info, ensures_call,
    ensures_ite, ensures_error, ensures_success, ensures_pure]
  refine ⟨.inl ⟨trivial, past, _, rfl, rfl, unasked⟩, fun remote => .inr ⟨remote, rfl, asked _⟩,
    fun jobs => ?_⟩
  rw [asked]
  refine tellJobs_turns.imp (fun _ _ stops => stops) ?_
  rintro _ _ ⟨taken, few, rfl⟩
  constructor
  · intro failed
    refine ⟨jobs, taken, rfl, few, ?_⟩
    rw [closingEntries, if_pos failed]
    simp only [List.append_assoc]
    rfl
  · intro passed
    refine ⟨jobs, taken, rfl, few, ?_⟩
    rw [closingEntries, if_neg passed]
    simp only [List.append_assoc]
    rfl

/-- What follows from looks at the run stops a session or ends it. -/
theorem conclude_turns {replies : List RunsReply} {polled : Polled} {most : Nat}
    {now : List SessionTurn} (ends : LooksEnd s target id most none past replies polled now)
    (unasked : jobRepliesOf now = []) :
    (conclude s target polled).Ensures
      (fun fault later => (fault = .cancelled ∧ AreCutShort later) ∨
        ∃ ending, later ++ tells [faultEntry fault] = now ++ ending ∧
          Concludes s target replies fault.outcome ending)
      (fun outcome later => ∃ ending, later = now ++ ending ∧
          Concludes s target replies outcome ending) now := by
  have polled_eq := ends.polled_eq
  cases seen : lastSeen none replies with
  | none =>
    rw [seen, Polled.ofSeen] at polled_eq
    rw [polled_eq]
    simp only [conclude, ensures_bind, ensures_warning, ensures_pure]
    have unfinished : ∀ run ∈ lastSeen none replies, run.status ≠ "completed" := by simp [seen]
    have timedOut := @Concludes.timedOut s target replies ends.answered unfinished
    rw [seen] at timedOut
    exact ⟨_, rfl, timedOut⟩
  | some run =>
    rw [seen, Polled.ofSeen] at polled_eq
    split at polled_eq
    · next completed =>
      rw [polled_eq]
      refine (collect_turns unasked).imp ?_ ?_
      · rintro fault later (cut | ⟨remote, rfl, rfl⟩)
        · exact .inl cut
        · refine .inr ⟨_, ?_, .unlisted ends.answered seen completed⟩
          simp only [List.append_assoc]
      · rintro outcome later ⟨jobs, taken, rfl, few, rfl⟩
        exact ⟨_, rfl, .collected ends.answered seen completed few⟩
    · next incomplete =>
      rw [polled_eq]
      simp only [conclude, ensures_bind, ensures_warning, ensures_info, ensures_pure]
      have unfinished : ∀ run ∈ lastSeen none replies, run.status ≠ "completed" := by
        simpa [seen] using incomplete
      have timedOut := @Concludes.timedOut s target replies ends.answered unfinished
      rw [seen] at timedOut
      exact ⟨_, List.append_assoc _ _ _, timedOut⟩

/-- Every session runs its course, whatever is answered to it. -/
theorem session_course (s : Settings) (token repo workflow : String) :
    Dialogue.Ensures (fun now outcome => Course s token repo outcome now) []
      (session s token repo workflow) := by
  refine Session.ensures_ofProcedure.mpr (steps_ensures ?_ ?_)
  · intro fault now early
    exact .early fault early
  · intro opening target registered checked opens triggered
    have unasked := opens.early.jobRepliesOf_eq_nil
    have cut : ∀ now, AreCutShort now → Course s token repo .indeterminate
        (now ++ [⟨.tell DeployFault.cancelled.level DeployFault.cancelled.line, ()⟩]) := by
      rintro _ ⟨before, turn, rfl, isCut, unasked⟩
      exact .cut isCut unasked
    rw [ensures_bind]
    refine (awaitRun_turns unasked).imp ?_ ?_
    · intro fault now stops
      cases stops with
      | cut short => exact cut now short
      | failed replies remote taken =>
        have concludes : Concludes s target (replies ++ [.error remote]) _ _ :=
          .failed List.getLast?_concat
        exact .looked checked opens triggered taken concludes
    · rintro polled now ⟨replies, ends⟩
      have polls := ends.turns
      have stillUnasked : jobRepliesOf now = [] := by simp [polls, unasked]
      have looked : ∀ outcome ending, Concludes s target replies outcome ending →
          Course s token repo outcome (now ++ ending) := by
        intro outcome ending concludes
        rw [polls]
        exact .looked checked opens triggered ends.taken concludes
      refine (conclude_turns ends stillUnasked).imp ?_ ?_
      · rintro fault later (⟨rfl, short⟩ | ⟨ending, last, concludes⟩)
        · exact cut later short
        · have course := looked _ _ concludes
          rw [← last] at course
          exact course
      · rintro outcome later ⟨ending, rfl, concludes⟩
        exact looked outcome ending concludes

end Endings

end Pipewright
