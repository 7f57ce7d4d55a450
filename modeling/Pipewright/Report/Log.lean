/-!
# Progress logs

A log keeps every entry in order. A listener may be given each entry as it is made; once the
listener's end is closed nothing more reaches it, which the log notices when it next has an entry,
and which never changes what the log keeps.
-/
namespace Pipewright

/-- A log and the channel to its listener. -/
structure ProgressLog (α : Type) where
  /-- The entries in order. -/
  entries : List α
  /-- Whether the log still gives entries to a listener. -/
  connected : Bool
  /-- Whether the listener's end is open. -/
  listening : Bool
  /-- The entries given to the listener and not yet taken by it. -/
  queue : List α

namespace ProgressLog

variable {α : Type}

/-- A log with nothing in it, with a listener or without one. -/
def empty (listener : Bool) : ProgressLog α := ⟨[], listener, listener, []⟩

/-- Adds an entry. -/
def push (log : ProgressLog α) (entry : α) : ProgressLog α where
  entries := log.entries ++ [entry]
  connected := log.connected && log.listening
  listening := log.listening
  queue := if log.connected && log.listening then log.queue ++ [entry] else log.queue

/-- The listener takes the next entry, if there is one. -/
def receive (log : ProgressLog α) : Option α × ProgressLog α :=
  match log.queue with
  | [] => (none, log)
  | entry :: queue => (some entry, { log with queue := queue })

/-- The listener's end is closed, and what it has not taken is lost. -/
def close (log : ProgressLog α) : ProgressLog α := { log with listening := false, queue := [] }

/-- An added entry is the last one. -/
@[simp]
theorem entries_push (log : ProgressLog α) (entry : α) :
    (log.push entry).entries = log.entries ++ [entry] := rfl

/-- Receiving keeps the entries. -/
@[simp]
theorem entries_receive (log : ProgressLog α) : log.receive.2.entries = log.entries := by
  unfold receive
  split <;> rfl

/-- Closing keeps the entries. -/
@[simp]
theorem entries_close (log : ProgressLog α) : log.close.entries = log.entries := rfl

end ProgressLog

end Pipewright
