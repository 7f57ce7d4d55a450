import Pipewright.Deployment.Session
import Pipewright.Proofs.Dialogue

/-!
# What procedures ensure

A procedure ends with a result or with a fault, so what it ensures is a pair of conditions on the
history at that moment, one for either end. Each act of a session has one law here that says which
turns it adds and how it ends, and a procedure of several acts is taken apart by `ensures_bind`.
-/
namespace Pipewright

/-- The turns of a session. -/
abbrev SessionTurn : Type := Dialogue.Turn Act Act.Answer

namespace Procedure

variable {α β : Type} {failed : DeployFault → List SessionTurn → Prop}
  {good : α → List SessionTurn → Prop} {past : List SessionTurn}

/-- The condition on results and faults that two conditions make. -/
def Ending (failed : DeployFault → List SessionTurn → Prop)
    (good : α → List SessionTurn → Prop) (now : List SessionTurn) :
    Except DeployFault α → Prop
  | .ok result => good result now
  | .error fault => failed fault now

/-- Whether a condition holds at every end of a procedure that stops, and another at every end with
a result, when the procedure goes on from a history. -/
def Ensures (p : Procedure α) (failed : DeployFault → List SessionTurn → Prop)
    (good : α → List SessionTurn → Prop) (past : List SessionTurn) : Prop :=
  Dialogue.Ensures (Ending failed good) past p.run

/-- A procedure that ends at once ensures what holds already. -/
theorem ensures_pure {result : α} :
    (pure result : Procedure α).Ensures failed good past ↔ good result past := Iff.rfl

/-- A procedure that stops at once ensures what holds already. -/
theorem ensures_stop {fault : DeployFault} :
    (stop fault : Procedure α).Ensures failed good past ↔ failed fault past := Iff.rfl

/-- What a procedure ensures together with what goes on with its result, it ensures of its result;
what it ensures when it stops stays. -/
theorem ensures_bind {good : β → List SessionTurn → Prop} {p : Procedure α}
    {next : α → Procedure β} :
    (p >>= next).Ensures failed good past ↔
      p.Ensures failed (fun result now => (next result).Ensures failed good now) past := by
  change Dialogue.Ensures _ past (Dialogue.bind p.run _) ↔ _
  rw [Dialogue.ensures_bind]
  have ends : ∀ now (result : Except DeployFault α),
      Dialogue.Ensures (Ending failed good) now (ExceptT.bindCont next result) ↔
        Ending failed (fun result now => (next result).Ensures failed good now) now result := by
    intro now result
    cases result with
    | ok result => rfl
    | error fault => rfl
  exact ⟨fun ensured => ensured.imp fun now result => (ends now result).mp,
    fun ensured => ensured.imp fun now result => (ends now result).mpr⟩

/-- A procedure that ensures two conditions ensures what follows from them. -/
theorem Ensures.imp {failed' : DeployFault → List SessionTurn → Prop}
    {good' : α → List SessionTurn → Prop} {p : Procedure α} (ensured : p.Ensures failed good past)
    (fails : ∀ fault now, failed fault now → failed' fault now)
    (goes : ∀ result now, good result now → good' result now) : p.Ensures failed' good' past := by
  refine Dialogue.Ensures.imp ensured fun now result held => ?_
  cases result with
  | ok result => exact goes result now held
  | error fault => exact fails fault now held

/-- A procedure ensures that the history of its result goes on from the one before it. -/
theorem Ensures.goes_on {p : Procedure α} (ensured : p.Ensures failed good past) :
    p.Ensures failed (fun result now => good result now ∧ past <+: now) past := by
  refine (Dialogue.Ensures.goes_on ensured).imp ?_
  rintro now (fault | result) ⟨held, later⟩
  · exact held
  · exact ⟨held, later⟩

/-- A choice ensures what each of its procedures ensures when it is chosen. -/
theorem ensures_ite {condition : Prop} [Decidable condition] {p q : Procedure α} :
    (if condition then p else q).Ensures failed good past ↔
      (condition → p.Ensures failed good past) ∧ (¬condition → q.Ensures failed good past) := by
  split <;> simp [*]

/-- One question adds one turn. -/
theorem ensures_question {act : Act} {good : act.Answer → List SessionTurn → Prop} :
    (ask act).Ensures failed good past ↔ ∀ answer, good answer (past ++ [⟨act, answer⟩]) := Iff.rfl

/-- An entry adds one turn. -/
theorem ensures_tell {level : Level} {message : String} {good : Unit → List SessionTurn → Prop} :
    (ask (.tell level message)).Ensures failed good past ↔
      good () (past ++ [⟨.tell level message, ()⟩]) :=
  ensures_question.trans ⟨fun all => all (), fun held _ => held⟩

/-- An entry that something happens adds one turn. -/
theorem ensures_info {message : String} {good : Unit → List SessionTurn → Prop} :
    (info message).Ensures failed good past ↔
      good () (past ++ [⟨.tell .info message, ()⟩]) := ensures_tell

/-- An entry that something is done adds one turn. -/
theorem ensures_success {message : String} {good : Unit → List SessionTurn → Prop} :
    (success message).Ensures failed good past ↔
      good () (past ++ [⟨.tell .success message, ()⟩]) := ensures_tell

/-- An entry that something is uncertain adds one turn. -/
theorem ensures_warning {message : String} {good : Unit → List SessionTurn → Prop} :
    (warning message).Ensures failed good past ↔
      good () (past ++ [⟨.tell .warning message, ()⟩]) := ensures_tell

/-- An entry that something failed adds one turn. -/
theorem ensures_error {message : String} {good : Unit → List SessionTurn → Prop} :
    (error message).Ensures failed good past ↔
      good () (past ++ [⟨.tell .error message, ()⟩]) := ensures_tell

/-- A stage is entered, or the session is cancelled there. -/
theorem ensures_enter {stage : Stage} {good : Unit → List SessionTurn → Prop} :
    (enter stage).Ensures failed good past ↔
      failed .cancelled (past ++ [⟨.enter stage, true⟩]) ∧
        good () (past ++ [⟨.enter stage, false⟩]) := by
  unfold enter
  rw [ensures_bind, ensures_question]
  exact Bool.forall_bool.trans and_comm

/-- A pause ends, or the session is cancelled meanwhile. -/
theorem ensures_pause {milliseconds : Nat} {good : Unit → List SessionTurn → Prop} :
    (pause milliseconds).Ensures failed good past ↔
      failed .cancelled (past ++ [⟨.pause milliseconds, true⟩]) ∧
        good () (past ++ [⟨.pause milliseconds, false⟩]) := by
  unfold pause
  rw [ensures_bind, ensures_question]
  exact Bool.forall_bool.trans and_comm

/-- A call fails, and the session stops with the fault that this is turned into, or it succeeds. -/
theorem ensures_callOr {toFault : RemoteFault → DeployFault} {credentials : Credentials} {c : Call}
    {good : c.Reply → List SessionTurn → Prop} :
    @Ensures (no_index c.Reply) (callOr toFault credentials c) failed good past ↔
      (∀ fault, failed (toFault fault) (past ++ [⟨.call credentials c, .error fault⟩])) ∧
        ∀ reply, good reply (past ++ [⟨.call credentials c, .ok reply⟩]) := by
  unfold callOr
  rw [ensures_bind, ensures_question]
  constructor
  · intro ensured
    exact ⟨fun fault => ensured (.error fault), fun reply => ensured (.ok reply)⟩
  · rintro ⟨fails, goes⟩ answer
    cases answer with
    | ok reply => exact goes reply
    | error fault => exact fails fault

/-- A call fails and the session stops, or it succeeds. -/
theorem ensures_call {credentials : Credentials} {c : Call}
    {good : c.Reply → List SessionTurn → Prop} :
    @Ensures (no_index c.Reply) (call credentials c) failed good past ↔
      (∀ fault, failed (.ofRemote fault) (past ++ [⟨.call credentials c, .error fault⟩])) ∧
        ∀ reply, good reply (past ++ [⟨.call credentials c, .ok reply⟩]) := ensures_callOr

end Procedure

/-- The session of a procedure adds the entry of the fault that stops it. -/
theorem Session.ensures_ofProcedure {after : List SessionTurn → Outcome → Prop}
    {past : List SessionTurn} {p : Procedure Outcome} :
    Dialogue.Ensures after past (Session.ofProcedure p) ↔
      p.Ensures
        (fun fault now => after (now ++ [⟨.tell fault.level fault.line, ()⟩]) fault.outcome)
        (fun outcome now => after now outcome) past := by
  change Dialogue.Ensures after past (Dialogue.bind p.run _) ↔ _
  rw [Dialogue.ensures_bind]
  constructor
  · intro ensured
    refine Dialogue.Ensures.imp ensured fun now result held => ?_
    cases result with
    | ok outcome => exact held
    | error fault => exact held ()
  · intro ensured
    refine Dialogue.Ensures.imp ensured fun now result held => ?_
    cases result with
    | ok outcome => exact held
    | error fault => exact fun _ => held

/-! ## Procedures that only tell -/

namespace Deployment

open Procedure

/-- Whether a turn asks nothing: an entry, or the run that is followed. -/
def IsNote : SessionTurn → Prop
  | ⟨.tell _ _, _⟩ => True
  | ⟨.follow _ _, _⟩ => True
  | _ => False

/-- Whether only notes have been added to a history. -/
def AddsNotes (past now : List SessionTurn) : Prop :=
  ∃ notes, now = past ++ notes ∧ ∀ turn ∈ notes, IsNote turn

variable {failed : DeployFault → List SessionTurn → Prop} {past now later : List SessionTurn}

/-- Nothing added is no more than notes added. -/
theorem AddsNotes.refl : AddsNotes past past := ⟨[], by simp, by simp⟩

/-- Notes may be added twice. -/
theorem AddsNotes.trans (first : AddsNotes past now) (second : AddsNotes now later) :
    AddsNotes past later := by
  obtain ⟨notes, rfl, areNotes⟩ := first
  obtain ⟨more, rfl, alsoNotes⟩ := second
  refine ⟨notes ++ more, by rw [List.append_assoc], fun turn member => ?_⟩
  exact (List.mem_append.mp member).elim (areNotes turn) (alsoNotes turn)

/-- An entry is a note. -/
theorem addsNotes_tell {level : Level} {message : String} :
    AddsNotes past (past ++ [⟨.tell level message, ()⟩]) :=
  ⟨_, rfl, by simp [IsNote]⟩

/-- Following a run is a note. -/
theorem addsNotes_follow {run : UInt64} {url : String} :
    AddsNotes past (past ++ [⟨.follow run url, ()⟩]) :=
  ⟨_, rfl, by simp [IsNote]⟩

/-- Noting a run adds notes, and never stops a session. -/
theorem note_ensures {s : Settings} {target : Target} {latest : Option WorkflowRun}
    {run : WorkflowRun} :
    (note s target latest run).Ensures failed (fun _ now => AddsNotes past now) past := by
  unfold note
  simp only [ensures_bind, ensures_ite, ensures_info]
  exact ⟨fun _ _ => addsNotes_tell.trans addsNotes_follow, fun _ _ => addsNotes_follow⟩

/-- Telling the lines of a log adds notes, and never stops a session. -/
theorem tellLog_ensures (lines : List String) :
    (tellLog lines).Ensures failed (fun _ now => AddsNotes past now) past := by
  induction lines generalizing past with
  | nil => exact ensures_pure.mpr AddsNotes.refl
  | cons line lines ih =>
    rw [tellLog, ensures_bind, ensures_info]
    exact ih.imp (fun _ _ held => held) fun _ _ added => addsNotes_tell.trans added

/-- Telling that a run failed adds notes, and never stops a session. -/
theorem tellFailure_ensures {run : WorkflowRun} {outcome : Outcome} :
    (tellFailure run outcome).Ensures failed (fun _ now => AddsNotes past now) past := by
  unfold tellFailure
  rw [ensures_ite, ensures_error, ensures_pure]
  exact ⟨fun _ => addsNotes_tell, fun _ => AddsNotes.refl⟩

/-- Telling how a job went adds notes and, unless logs are being skipped, the download of its log
among them; logs are skipped from now on if that was cut short. It never stops a session. -/
theorem tellJob_ensures {credentials : Credentials} {skipping : Bool} {job : RunJob} :
    (tellJob credentials skipping job).Ensures failed
      (fun skips now => (skipping = true ∧ skips = true ∧ AddsNotes past now) ∨
        ∃ before log, skipping = false ∧ skips = log.isNone ∧ AddsNotes past before ∧
          AddsNotes (before ++ [⟨.download credentials job.id, log⟩]) now) past := by
  have told : ∀ first second, AddsNotes past
      (past ++ [⟨.tell .info first, ()⟩] ++ [⟨.tell .info second, ()⟩]) :=
    fun _ _ => addsNotes_tell.trans addsNotes_tell
  unfold tellJob
  rw [ensures_bind, ensures_info, ensures_bind, ensures_info, ensures_ite]
  refine ⟨fun skips => ensures_pure.mpr (.inl ⟨skips, rfl, told _ _⟩), fun looks => ?_⟩
  have looks : skipping = false := Bool.eq_false_iff.mpr looks
  rw [ensures_bind, ensures_info, ensures_bind, ensures_question]
  have asked := fun message => (told ("Job: " ++ job.name) ("Status: " ++ job.status
    ++ ", Conclusion: " ++ job.conclusion.getD "pending")).trans
      (@addsNotes_tell _ .info message)
  rintro (_ | fault | log)
  · rw [ensures_bind, ensures_warning]
    exact .inr ⟨_, none, looks, rfl, asked _, addsNotes_tell⟩
  · rw [ensures_bind, ensures_warning]
    exact .inr ⟨_, some (.error fault), looks, rfl, asked _, addsNotes_tell⟩
  · rw [ensures_bind]
    exact (tellLog_ensures (logLines log)).imp (fun _ _ held => held) fun _ _ added =>
      .inr ⟨_, some (.ok log), looks, rfl, asked _, added⟩

end Deployment

end Pipewright
