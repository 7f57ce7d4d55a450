import Pipewright.Report.Log

/-!
# What a listener receives

A log and the end of its listener, over entries that are added and taken in any order until the end
is closed. The log keeps exactly what was added. As long as the end is open, what was received and
what waits there are the log (`Listening.KeepsUp`); once it is closed nothing more is received, so
that what was received is the front of the log in any case.
-/
namespace Pipewright

/-- What is done to a log and at its listener's end. -/
inductive LogAct (α : Type) where
  /-- An entry is added. -/
  | push (entry : α)
  /-- The listener takes the next entry. -/
  | receive
  /-- The listener closes its end. -/
  | close

/-- The entry that an act adds. -/
def LogAct.entry? {α : Type} : LogAct α → Option α
  | push entry => some entry
  | receive => none
  | close => none

/-- A log and what its listener has received. -/
structure Listening (α : Type) where
  /-- The log, with the channel to the listener. -/
  log : ProgressLog α
  /-- What the listener has received, in order. -/
  received : List α

namespace Listening

variable {α : Type}

/-- A log with nothing in it, with a listener or without one. -/
def start (listener : Bool) : Listening α := ⟨.empty listener, []⟩

/-- The log and its listener after one more act. -/
def act (l : Listening α) : LogAct α → Listening α
  | .push entry => { l with log := l.log.push entry }
  | .receive => ⟨l.log.receive.2, l.received ++ l.log.receive.1.toList⟩
  | .close => { l with log := l.log.close }

/-- The log and its listener after more acts. -/
def run (l : Listening α) (acts : List (LogAct α)) : Listening α := acts.foldl act l

/-- The entries that acts add, in order. -/
def pushed (acts : List (LogAct α)) : List α := acts.filterMap LogAct.entry?

variable {l : Listening α} {acts later : List (LogAct α)}

/-- Acts go on from where those before them have led. -/
theorem run_append (l : Listening α) (acts later : List (LogAct α)) :
    l.run (acts ++ later) = (l.run acts).run later := List.foldl_append

/-- Where entries are only added, nothing is received. -/
theorem run_push (l : Listening α) (entries : List α) :
    l.run (entries.map .push) = ⟨entries.foldl ProgressLog.push l.log, l.received⟩ := by
  induction entries generalizing l with
  | nil => rfl
  | cons entry entries ih => exact ih _

/-- Where nothing waits, taking an entry changes nothing. -/
theorem act_receive_of_nil (waiting : l.log.queue = []) : l.act .receive = l := by
  simp [act, ProgressLog.receive, waiting]

/-- Where entries wait, the first of them is taken. -/
theorem act_receive_of_cons {entry : α} {queue : List α} (waiting : l.log.queue = entry :: queue) :
    l.act .receive = ⟨{ l.log with queue := queue }, l.received ++ [entry]⟩ := by
  simp [act, ProgressLog.receive, waiting]

/-! ## The log -/

/-- An act keeps the entries of a log and adds its own. -/
theorem entries_act (l : Listening α) (act : LogAct α) :
    (l.act act).log.entries = l.log.entries ++ act.entry?.toList := by
  cases act with
  | push entry => rfl
  | receive => exact (ProgressLog.entries_receive _).trans (List.append_nil _).symm
  | close => exact (List.append_nil _).symm

/-- Acts keep the entries of a log and add theirs. -/
theorem entries_run (l : Listening α) (acts : List (LogAct α)) :
    (l.run acts).log.entries = l.log.entries ++ pushed acts := by
  induction acts generalizing l with
  | nil => exact (List.append_nil _).symm
  | cons act acts ih =>
    calc
      ((l.act act).run acts).log.entries = (l.act act).log.entries ++ pushed acts := ih _
      _ = l.log.entries ++ act.entry?.toList ++ pushed acts := by rw [entries_act]
      _ = l.log.entries ++ pushed (act :: acts) := by
        cases found : act.entry? <;> simp [pushed, found]

/-! ## The listener -/

/-- Whether the listener keeps up with the log as long as its end is open. -/
structure KeepsUp (l : Listening α) : Prop where
  /-- Where the end is open the log still gives entries to it. -/
  connected : l.log.listening = true → l.log.connected = true
  /-- What was received and what waits there are the log. -/
  caughtUp : l.log.listening = true → l.received ++ l.log.queue = l.log.entries
  /-- Nothing waits at an end that is closed. -/
  emptied : l.log.listening = false → l.log.queue = []
  /-- What was received is the front of the log. -/
  heard : l.received <+: l.log.entries

/-- At the start there is nothing to keep up with. -/
theorem keepsUp_start (listener : Bool) : (start listener : Listening α).KeepsUp where
  connected isOpen := isOpen
  caughtUp _ := rfl
  emptied _ := rfl
  heard := List.prefix_refl _

/-- A listener goes on keeping up. -/
theorem KeepsUp.act (keepsUp : l.KeepsUp) (act : LogAct α) : (l.act act).KeepsUp := by
  cases act with
  | push entry =>
    refine ⟨fun listening => ?_, fun listening => ?_, fun silent => ?_,
      keepsUp.heard.trans (List.prefix_append _ _)⟩
    · exact Bool.and_eq_true_iff.mpr ⟨keepsUp.connected listening, listening⟩
    · have given : (l.log.connected && l.log.listening) = true :=
        Bool.and_eq_true_iff.mpr ⟨keepsUp.connected listening, listening⟩
      change l.received ++ (if _ then _ else _) = l.log.entries ++ [entry]
      rw [if_pos given, ← List.append_assoc, keepsUp.caughtUp listening]
    · have lost : (l.log.connected && l.log.listening) ≠ true := by
        rw [show l.log.listening = false from silent, Bool.and_false]
        exact Bool.false_ne_true
      change (if _ then _ else _) = []
      rw [if_neg lost]
      exact keepsUp.emptied silent
  | receive =>
    cases waiting : l.log.queue with
    | nil => rwa [act_receive_of_nil waiting]
    | cons entry queue =>
      -- An entry waits only where the end is open.
      have listening : l.log.listening = true := by
        refine Bool.not_eq_false _ |>.mp fun silent => ?_
        rw [keepsUp.emptied silent] at waiting
        cases waiting
      have split : (l.received ++ [entry]) ++ queue = l.log.entries := by
        rw [← keepsUp.caughtUp listening, waiting, List.append_assoc]
        rfl
      rw [act_receive_of_cons waiting]
      exact ⟨keepsUp.connected, fun _ => split,
        fun silent => absurd listening (Bool.eq_false_iff.mp silent), ⟨queue, split⟩⟩
  | close =>
    exact ⟨fun listening => absurd listening Bool.false_ne_true,
      fun listening => absurd listening Bool.false_ne_true, fun _ => rfl, keepsUp.heard⟩

/-- It does so over any acts. -/
theorem KeepsUp.run (keepsUp : l.KeepsUp) (acts : List (LogAct α)) : (l.run acts).KeepsUp := by
  induction acts generalizing l with
  | nil => exact keepsUp
  | cons act acts ih => exact ih (keepsUp.act act)

/-- An end stays as it is until it is closed. -/
theorem listening_run (l : Listening α) (kept : .close ∉ acts) :
    (l.run acts).log.listening = l.log.listening := by
  induction acts generalizing l with
  | nil => rfl
  | cons act acts ih =>
    have first : (l.act act).log.listening = l.log.listening := by
      cases act with
      | push entry => rfl
      | receive =>
        cases waiting : l.log.queue with
        | nil => rw [act_receive_of_nil waiting]
        | cons entry queue => rw [act_receive_of_cons waiting]
      | close => exact absurd List.mem_cons_self kept
    exact (ih _ fun closed => kept (List.mem_cons_of_mem _ closed)).trans first

/-- An end that is closed stays so, and nothing is received there. -/
theorem KeepsUp.silent_run (keepsUp : l.KeepsUp) (silent : l.log.listening = false)
    (acts : List (LogAct α)) :
    (l.run acts).received = l.received ∧ (l.run acts).log.listening = false := by
  induction acts generalizing l with
  | nil => exact ⟨rfl, silent⟩
  | cons act acts ih =>
    have first : (l.act act).received = l.received ∧ (l.act act).log.listening = false := by
      cases act with
      | push entry => exact ⟨rfl, silent⟩
      | receive =>
        rw [act_receive_of_nil (keepsUp.emptied silent)]
        exact ⟨rfl, silent⟩
      | close => exact ⟨rfl, rfl⟩
    obtain ⟨received, stillSilent⟩ := ih (keepsUp.act act) first.2
    exact ⟨received.trans first.1, stillSilent⟩

/-- Once an end is closed it is silent. -/
theorem listening_run_of_close (l : Listening α) (keepsUp : l.KeepsUp) (closed : .close ∈ acts) :
    (l.run acts).log.listening = false := by
  obtain ⟨before, rest, rfl⟩ := List.append_of_mem closed
  rw [run_append]
  exact (((keepsUp.run before).act .close).silent_run rfl rest).2

/-- A listener that takes entries as often as any wait has received them all. -/
theorem received_run_receive (l : Listening α) :
    (l.run (List.replicate l.log.queue.length .receive)).received =
      l.received ++ l.log.queue := by
  generalize waiting : l.log.queue = queue
  induction queue generalizing l with
  | nil => exact (List.append_nil _).symm
  | cons entry queue ih =>
    have now := act_receive_of_cons waiting
    have later := ih (l.act .receive) (by rw [now])
    have taken : (l.act .receive).received ++ queue = l.received ++ entry :: queue := by
      rw [now, List.append_assoc, List.singleton_append]
    rw [List.length_cons, List.replicate_succ]
    exact later.trans taken

/-! ## Whatever is done -/

/-- What holds of a log and its listener after acts. -/
structure IsMirrored (listener : Bool) (acts : List (LogAct α)) : Prop where
  /-- The log is what was added, in order, whether or not anybody listens. -/
  entries : ((start listener).run acts).log.entries = pushed acts
  /-- Whatever is done later only adds to it. -/
  appends : ∀ later,
    ((start listener).run (acts ++ later)).log.entries = pushed acts ++ pushed later
  /-- As long as the end is open, what was received and what waits there are the log. -/
  caughtUp : listener = true → .close ∉ acts →
    ((start listener).run acts).received ++ ((start listener).run acts).log.queue = pushed acts
  /-- What was received is the front of the log. -/
  heard : ((start listener).run acts).received <+: pushed acts
  /-- Once the end is closed nothing more is received. -/
  silent : .close ∈ acts → ∀ later,
    ((start listener).run (acts ++ later)).received = ((start listener).run acts).received
  /-- Without a listener nothing is received at all. -/
  unheard : listener = false → ((start listener).run acts).received = []

/-- A log is mirrored to its listener, whatever is done. -/
theorem isMirrored (listener : Bool) (acts : List (LogAct α)) : IsMirrored listener acts := by
  have keepsUp := (keepsUp_start listener (α := α)).run acts
  have entries (acts : List (LogAct α)) : ((start listener).run acts).log.entries = pushed acts :=
    entries_run (start listener) acts
  refine ⟨entries acts, fun later => ?_, fun isOpen kept => ?_, ?_, fun closed later => ?_,
    fun absent => ?_⟩
  · rw [entries, pushed, List.filterMap_append]
    rfl
  · rw [keepsUp.caughtUp ((listening_run _ kept).trans isOpen), entries]
  · rw [← entries acts]
    exact keepsUp.heard
  · rw [run_append]
    exact (keepsUp.silent_run (listening_run_of_close _ (keepsUp_start _) closed) later).1
  · exact ((keepsUp_start listener).silent_run absent acts).1

end Listening

end Pipewright
