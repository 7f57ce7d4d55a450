/-!
# Changes that settle

Changes of a file come in bursts, and what follows a burst waits until there has been none for a
while. A wait that finds a change ends that long after the last change of the burst, or at once when
no more can come; it finds none only when all have been used up and no more can come.
-/
namespace Pipewright

/-- The changes that are still to be noticed. -/
structure Changes where
  /-- Their moments, in milliseconds and in order. -/
  moments : List Nat
  /-- The moment from which on there are none, if there is one. -/
  closing : Option Nat
  deriving DecidableEq

/-- How a wait for changes ends. -/
structure Settled where
  /-- Whether there were any. -/
  changed : Bool
  /-- When it ends. -/
  moment : Nat
  /-- The changes after that. -/
  rest : Changes
  deriving DecidableEq

namespace Changes

/-- How long there has to be no change, in milliseconds. -/
def quietPeriod : Nat := 300

/-- The end of a burst whose last change so far has been noticed at a moment. -/
def endBurst (quiet last : Nat) (closing : Option Nat) : List Nat → Settled
  | [] =>
    match closing with
    | some moment =>
      ⟨true, if moment < last + quiet then max last moment else last + quiet, ⟨[], some moment⟩⟩
    | none => ⟨true, last + quiet, ⟨[], none⟩⟩
  | moment :: rest =>
    if moment < last + quiet then endBurst quiet (max last moment) closing rest
    else ⟨true, last + quiet, ⟨moment :: rest, closing⟩⟩

/-- A wait for changes that starts at a moment; nothing when it never ends. -/
def settle (quiet now : Nat) (changes : Changes) : Option Settled :=
  match changes.moments with
  | [] => changes.closing.map fun moment => ⟨false, max now moment, changes⟩
  | moment :: rest => some (endBurst quiet (max now moment) changes.closing rest)

end Changes

end Pipewright
