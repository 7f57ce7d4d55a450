import Mathlib.Data.List.Forall2
import Pipewright.Proofs.Deployment.Attended
import Pipewright.Proofs.Rehearsal.Interleaving
import Pipewright.Proofs.Report.Log

/-!
# Listeners of sessions

A session adds to its log what it tells and nothing else, whoever answers it and however often its
listener takes entries in between (`exists_acts`). In a rehearsal, where many sessions take turns,
each log is likewise only added to (`playAll_grows`). So a listener that stays receives exactly the
entries of the report.
-/
namespace Pipewright

open Listening (pushed run_append)

/-! ## Sessions -/

section Sessions

variable {σ α : Type}

/-- What an act at a moment does to the log of its session. -/
def Act.noted (moment : Timestamp) : Act → List (LogAct Entry)
  | .tell level message => [.push ⟨moment, level, message⟩]
  | _ => []

/-- A partner in a session who keeps the log of the session, too, and whose listener takes so many
entries after every act. -/
def withListener (partner : σ → (act : Act) → act.Answer × σ) (clock : σ → Timestamp)
    (takes : σ → Nat) (place : σ × Listening Entry) (act : Act) :
    act.Answer × (σ × Listening Entry) :=
  let (answer, next) := partner place.1 act
  (answer, next, place.2.run (act.noted (clock place.1) ++ List.replicate (takes next) .receive))

/-- What an act adds to the log is what its turn tells. -/
theorem told_noted (moment : Timestamp) (taken : Nat) (act : Act) (answer : act.Answer) :
    (pushed (act.noted moment ++ List.replicate taken .receive)).map Entry.told =
      entriesOf [⟨act, answer⟩] := by
  have nothing : pushed (List.replicate taken .receive : List (LogAct Entry)) = [] :=
    List.filterMap_replicate_of_none rfl
  rw [pushed, List.filterMap_append]
  change List.map _ (pushed _ ++ pushed _) = _
  rw [nothing, List.append_nil]
  cases act <;> rfl

/-- A session goes on as without a log, and does to the log what it tells. -/
theorem exists_acts (partner : σ → (act : Act) → act.Answer × σ) (clock : σ → Timestamp)
    (takes : σ → Nat) (state : σ) (l : Listening Entry) (session : Session α) :
    ∃ acts, .close ∉ acts ∧
      (pushed acts).map Entry.told = entriesOf (session.history partner state) ∧
      session.play (withListener partner clock takes) (state, l) =
        ((session.play partner state).1, (session.play partner state).2, l.run acts) := by
  induction session generalizing state l with
  | done result => exact ⟨[], List.not_mem_nil, rfl, rfl⟩
  | ask act next ih =>
    let first := act.noted (clock state) ++
      List.replicate (takes (partner state act).2) LogAct.receive
    obtain ⟨later, kept, told, same⟩ := ih (partner state act).1 (partner state act).2 (l.run first)
    have isOpen : LogAct.close ∉ first := by
      cases act <;> simp [first, Act.noted, List.mem_replicate]
    refine ⟨first ++ later, ?_, ?_, ?_⟩
    · exact fun closed => (List.mem_append.mp closed).elim isOpen kept
    · have before := told_noted (clock state) (takes (partner state act).2) act
        (partner state act).1
      rw [pushed, List.filterMap_append, List.map_append]
      exact (congrArg₂ _ before told).trans (entriesOf_append [_] _).symm
    · rw [run_append]
      exact same

/-- What holds of a session whose listener takes entries in its course. -/
structure IsHeard (partner : σ → (act : Act) → act.Answer × σ) (clock : σ → Timestamp)
    (takes : σ → Nat) (state : σ) (session : Session Outcome)
    (ended : Outcome × (σ × Listening Entry)) : Prop where
  /-- It ends as without a log. -/
  outcome : ended.1 = (session.play partner state).1
  /-- The entries of the log are what it told. -/
  entries : ended.2.2.log.entries.map Entry.told = entriesOf (session.history partner state)
  /-- What was received and what waits are the entries. -/
  caughtUp : ended.2.2.received ++ ended.2.2.log.queue = ended.2.2.log.entries
  /-- Once the listener has taken what waits, it has received exactly the entries. -/
  received : (ended.2.2.run (List.replicate ended.2.2.log.queue.length .receive)).received =
    ended.2.2.log.entries

/-- A session is heard by a listener that stays. -/
theorem isHeard (partner : σ → (act : Act) → act.Answer × σ) (clock : σ → Timestamp)
    (takes : σ → Nat) (state : σ) (session : Session Outcome) :
    IsHeard partner clock takes state session
      (session.play (withListener partner clock takes) (state, .start true)) := by
  obtain ⟨acts, kept, told, same⟩ := exists_acts partner clock takes state (.start true) session
  have mirrored := Listening.isMirrored true acts
  have caughtUp := (mirrored.caughtUp rfl kept).trans mirrored.entries.symm
  rw [same]
  exact ⟨rfl, (congrArg _ mirrored.entries).trans told, caughtUp,
    (Listening.received_run_receive _).trans caughtUp⟩

end Sessions

namespace Rehearsal

/-! ## Rehearsals -/

section Growth

variable {scene : Scene} {task mid later : Task}

/-- Whether entries have been added to the log of a task, and nothing else was done to it. -/
def Grew (task later : Task) : Prop :=
  ∃ notes : List Note, later.log = notes.foldl ProgressLog.push task.log

/-- No entries may have been added. -/
theorem Grew.of_eq (same : later.log = task.log) : Grew task later := ⟨[], same⟩

/-- Entries may have been added twice. -/
theorem Grew.trans (first : Grew task mid) (second : Grew mid later) : Grew task later := by
  obtain ⟨notes, added⟩ := first
  obtain ⟨more, addedMore⟩ := second
  exact ⟨notes ++ more, by rw [addedMore, added, List.foldl_append]⟩

/-- An act adds what it tells, before it is answered or has to wait. -/
theorem perform_ask_grows (act : Act) (next : act.Answer → Session Ending) (scene : Scene)
    (task : Task) :
    ∃ result : Scene × Task,
      ((∃ answer, perform (.ask act next) scene task = perform (next answer) result.1 result.2) ∨
        perform (.ask act next) scene task = result) ∧
      Grew task result.2 := by
  cases act with
  | enter stage => exact ⟨(_, _), .inl ⟨_, rfl⟩, .of_eq rfl⟩
  | tell level message => exact ⟨(_, _), .inl ⟨(), rfl⟩, ⟨[(scene.now, level, message)], rfl⟩⟩
  | follow run url => exact ⟨(_, _), .inl ⟨(), rfl⟩, .of_eq rfl⟩
  | call credentials c =>
    simp only [perform]
    split
    · exact ⟨(_, _), .inl ⟨_, rfl⟩, .of_eq rfl⟩
    · exact ⟨(_, _), .inr rfl, .of_eq rfl⟩
  | pause milliseconds =>
    simp only [perform]
    split
    · exact ⟨(_, _), .inl ⟨true, rfl⟩, .of_eq rfl⟩
    · split
      · exact ⟨(_, _), .inl ⟨false, rfl⟩, .of_eq rfl⟩
      · exact ⟨(_, _), .inr rfl, .of_eq rfl⟩
  | download credentials job =>
    simp only [perform]
    split
    · exact ⟨(_, _), .inl ⟨none, rfl⟩, .of_eq rfl⟩
    · split
      · exact ⟨(_, _), .inl ⟨some _, rfl⟩, .of_eq rfl⟩
      · split
        · exact ⟨(_, _), .inl ⟨none, rfl⟩, .of_eq rfl⟩
        · exact ⟨(_, _), .inr rfl, .of_eq rfl⟩

/-- A session that goes on adds entries. -/
theorem perform_grows (session : Session Ending) (scene : Scene) (task : Task) :
    Grew task (perform session scene task).2 := by
  induction session generalizing scene task with
  | done ending => exact .of_eq rfl
  | ask act next ih =>
    obtain ⟨result, ⟨answer, goesOn⟩ | waits, grew⟩ := perform_ask_grows act next scene task
    · rw [goesOn]
      exact grew.trans (ih answer _ _)
    · rwa [waits]

/-- An errand that begins adds entries. -/
theorem start_grows (scene : Scene) (task : Task) : Grew task (start scene task).2 := by
  simp only [start]
  split
  · exact Grew.trans (.of_eq rfl) (perform_grows _ _ _)
  · exact Grew.trans (.of_eq rfl) (perform_grows _ _ _)
  · exact Grew.trans (.of_eq rfl) (perform_grows _ _ _)
  · exact .of_eq rfl
  · exact .of_eq rfl

/-- A task adds entries in its turn. -/
theorem turn_grows (scene : Scene) (task : Task) : Grew task (afterTurn scene task).2 := by
  obtain same | ⟨-, begins⟩ | ⟨rest, -, goesOn⟩ := afterTurn_cases scene task
  · rw [same]
    exact .of_eq rfl
  · rw [begins]
    exact start_grows scene task
  · rw [goesOn]
    exact perform_grows rest scene task

/-- All tasks do in their turns. -/
theorem round_grows {before tasks : List Task} (grew : List.Forall₂ Grew before tasks)
    (scene : Scene) : List.Forall₂ Grew before (round scene tasks).2.1 := by
  induction grew generalizing scene with
  | nil => exact .nil
  | cons first _ ih => exact .cons (first.trans (turn_grows scene _)) (ih _)

/-- Cancelling tasks adds nothing. -/
theorem fire_grows {before tasks : List Task} (grew : List.Forall₂ Grew before tasks)
    (now : Nat) : List.Forall₂ Grew before (tasks.map (Task.fire now)) := by
  refine List.forall₂_map_right_iff.mpr (grew.imp fun first task grew => grew.trans ?_)
  unfold Task.fire
  split <;> exact .of_eq rfl

/-- However long a rehearsal goes on, its tasks have added entries to their logs, and nothing else
was done to these. -/
theorem playAll_grows (fuel : Nat) {before tasks : List Task}
    (grew : List.Forall₂ Grew before tasks) (scene : Scene) :
    List.Forall₂ Grew before (playAll fuel scene tasks).2 := by
  induction fuel generalizing scene tasks with
  | zero => exact grew
  | succ fuel ih =>
    have moved := round_grows grew scene
    simp only [playAll]
    split
    · exact ih moved _
    · split
      · exact ih (fire_grows moved _) _
      · split
        · exact moved
        · exact ih moved _

end Growth

/-- In the end all entries wait for a listener that stays, in order, and none for any other. -/
theorem Grew.queue_eq {task later : Task} (grew : Grew task later) (listener : Listener)
    (new : task.log = listener.log) :
    later.log.queue = if listener = .live then later.log.entries else [] := by
  obtain ⟨notes, added⟩ := grew
  rw [added, new]
  have run (l : Listening Note) : (l.run (notes.map .push)).log = _ :=
    congrArg Listening.log (Listening.run_push l notes)
  cases listener with
  | none =>
    have keepsUp := (Listening.keepsUp_start false).run (notes.map LogAct.push)
    have silent := ((Listening.keepsUp_start false).silent_run rfl (notes.map LogAct.push)).2
    exact (congrArg _ (run _)).symm.trans (keepsUp.emptied silent)
  | dropped =>
    have closed := (Listening.keepsUp_start true).act (LogAct.close (α := Note))
    have keepsUp := closed.run (notes.map .push)
    have silent := (closed.silent_run rfl (notes.map .push)).2
    exact (congrArg _ (run _)).symm.trans (keepsUp.emptied silent)
  | live =>
    have keepsUp := (Listening.keepsUp_start true).run (notes.map LogAct.push)
    have kept : LogAct.close ∉ notes.map LogAct.push := by simp
    have caughtUp := keepsUp.caughtUp (Listening.listening_run _ kept)
    rw [Listening.run_push] at caughtUp
    exact caughtUp

end Rehearsal

/-! ## What listeners receive -/

/-- A log keeps what is added to it and mirrors it to its listener, whatever is done. So in every
session a listener that stays receives exactly the entries of the report: be the session played with
any partner, while the listener takes entries whenever it likes, or in a rehearsal among others. -/
theorem listeners_receive_entries :
    (∀ {α : Type} (listener : Bool) (acts : List (LogAct α)),
      Listening.IsMirrored listener acts) ∧
    (∀ {σ : Type} (partner : σ → (act : Act) → act.Answer × σ) (clock : σ → Timestamp)
      (takes : σ → Nat) (state : σ) (session : Session Outcome),
      IsHeard partner clock takes state session
        (session.play (withListener partner clock takes) (state, .start true))) ∧
    ∀ (fuel : Nat) (scene : Rehearsal.Scene) (tasks : List Rehearsal.Task),
      List.Forall₂ (fun task later => ∀ listener : Rehearsal.Listener, task.log = listener.log →
          later.log.queue = if listener = .live then later.log.entries else [])
        tasks (Rehearsal.playAll fuel scene tasks).2 := by
  refine ⟨Listening.isMirrored, isHeard, fun fuel scene tasks => ?_⟩
  have unchanged : List.Forall₂ Rehearsal.Grew tasks tasks :=
    List.forall₂_same.mpr fun _ _ => .of_eq rfl
  exact (Rehearsal.playAll_grows fuel unchanged scene).imp
    fun _ _ grew listener new => grew.queue_eq listener new

end Pipewright
