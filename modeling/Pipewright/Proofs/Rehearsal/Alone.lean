import Pipewright.Rehearsal.Clock

/-!
# Rehearsals of one task

Where nothing else is played, a task goes on until it pauses, and then the clock moves: to the end
of the pause (`arrives_waited`), or to a cancellation that comes before it (`arrives_cut`). A task
that is over stays as it is (`playAll_over`).
-/
namespace Pipewright.Rehearsal

/-- Whether a rehearsal of one task, after that many turns, cancellations and moments, is one of
another scene and task. -/
def Arrives (steps : Nat) (before after : Scene × Task) : Prop :=
  ∀ fuel, playAll (steps + fuel) before.1 [before.2] = playAll fuel after.1 [after.2]

/-- A rehearsal is where it is. -/
theorem Arrives.refl (state : Scene × Task) : Arrives 0 state state :=
  fun fuel => by rw [Nat.zero_add]

/-- A rehearsal that goes on arrives after all its steps. -/
theorem Arrives.trans {steps more : Nat} {before mid after : Scene × Task}
    (first : Arrives steps before mid) (second : Arrives more mid after) :
    Arrives (steps + more) before after := by
  intro fuel
  rw [Nat.add_assoc, first, second]

section Steps

variable {scene : Scene} {task : Task} {fuel : Nat}

/-- A task goes on in its turn. -/
theorem playAll_moved {after : Scene × Task} (moves : turn scene task = (after.1, after.2, true)) :
    playAll (fuel + 1) scene [task] = playAll fuel after.1 [after.2] := by
  simp [playAll, round, moves]

/-- A task that is due is cancelled when it does not go on. -/
theorem playAll_due (stays : turn scene task = (scene, task, false))
    (due : task.isDue scene.now = true) :
    playAll (fuel + 1) scene [task] = playAll fuel scene [task.fire scene.now] := by
  simp [playAll, round, stays, due]

/-- Else the clock moves to the next moment at which something happens. -/
theorem playAll_waits (stays : turn scene task = (scene, task, false))
    (undue : task.isDue scene.now = false) {moment : Nat}
    (first : task.moments.min? = some moment) :
    playAll (fuel + 1) scene [task] = playAll fuel { scene with now := moment } [task] := by
  simp [playAll, round, stays, undue, first]

/-- A task begins when its time has come. -/
theorem arrives_begun {wake : Nat} (waits : task.phase = .unbegun wake) (comes : wake ≤ scene.now) :
    Arrives 1 (scene, task) (start scene task) := by
  intro fuel
  rw [Nat.add_comm]
  exact playAll_moved (by simp [turn, waits, comes])

variable {wake : Nat} {next : Bool → Session Ending}

/-- A task pauses while the pause is not over and it is not cancelled. -/
theorem turn_pausing (waits : task.phase = .pausing wake next)
    (calm : task.isCancelled scene = false) (ahead : scene.now < wake) :
    turn scene task = (scene, task, false) := by
  simp [turn, waits, calm, Nat.not_le.mpr ahead]

/-- A task whose cancellation is yet to come is not due. -/
theorem isDue_of_lt {now : Nat} (later : ∀ moment ∈ task.cancelAt, now < moment) :
    task.isDue now = false := by
  unfold Task.isDue
  split
  · rfl
  · next moment cancels => simp [Nat.not_le.mpr (later moment cancels)]

/-- A pause ends if no cancellation comes before that. -/
theorem arrives_waited (waits : task.phase = .pausing wake next)
    (calm : task.isCancelled scene = false) (ahead : scene.now < wake)
    (free : ∀ moment ∈ task.cancelAt, wake < moment) :
    Arrives 2 (scene, task) (perform (next false) { scene with now := wake } task) := by
  intro fuel
  have undue : task.isDue scene.now = false :=
    isDue_of_lt fun moment cancels => Nat.lt_trans ahead (free moment cancels)
  have first : task.moments.min? = some wake := by
    cases cancels : task.cancelAt with
    | none => simp [Task.moments, waits, cancels]
    | some moment =>
      have later := Nat.le_of_lt (free moment cancels)
      simp [Task.moments, waits, cancels, List.min?_cons, later]
  have goesOn : turn { scene with now := wake } task =
      ((perform (next false) { scene with now := wake } task).1,
        (perform (next false) { scene with now := wake } task).2, true) := by
    have calm : task.isCancelled { scene with now := wake } = false := calm
    simp [turn, waits, calm]
  rw [Nat.add_comm, playAll_waits (turn_pausing waits calm ahead) undue first]
  exact playAll_moved goesOn

/-- A pause is cut short by a cancellation that comes before its end. -/
theorem arrives_cut {moment : Nat} (waits : task.phase = .pausing wake next)
    (calm : task.isCancelled scene = false) (cancels : task.cancelAt = some moment)
    (ahead : scene.now < moment) (early : moment < wake) :
    Arrives 3 (scene, task) (perform (next true) { scene with now := moment }
      { task with cancelled := true, cancelAt := none }) := by
  intro fuel
  have undue : task.isDue scene.now = false := isDue_of_lt fun other isOther => by
    rw [cancels] at isOther
    exact Option.some.inj isOther ▸ ahead
  have first : task.moments.min? = some moment := by
    simp [Task.moments, waits, cancels, List.min?_cons, Nat.min_eq_right (Nat.le_of_lt early)]
  have due : task.isDue moment = true := by simp [Task.isDue, Task.isOver, waits, cancels]
  have fires : task.fire moment = { task with cancelled := true, cancelAt := none } := by
    rw [Task.fire, if_pos due]
  have heeds : turn { scene with now := moment } { task with cancelled := true, cancelAt := none } =
      ((perform (next true) { scene with now := moment }
          { task with cancelled := true, cancelAt := none }).1,
        (perform (next true) { scene with now := moment }
          { task with cancelled := true, cancelAt := none }).2, true) := by
    simp [turn, waits, Task.isCancelled]
  have stays : turn { scene with now := moment } task =
      ({ scene with now := moment }, task, false) := turn_pausing waits calm early
  have pauses := turn_pausing waits calm (Nat.lt_trans ahead early)
  rw [Nat.add_comm, playAll_waits pauses undue first, playAll_due stays due, fires]
  exact playAll_moved heeds

/-- A task that is over stays as it is. -/
theorem playAll_over {ending : Ending} (ended : task.phase = .over ending) :
    playAll fuel scene [task] = (scene, [task]) := by
  cases fuel with
  | zero => rfl
  | succ fuel =>
    have stays : turn scene task = (scene, task, false) := by simp [turn, ended]
    have undue : task.isDue scene.now = false := by
      unfold Task.isDue
      split
      · rfl
      · simp [Task.isOver, ended]
    have still : task.moments = [] := by simp [Task.moments, ended]
    simp [playAll, round, stays, undue, still]

end Steps

end Pipewright.Rehearsal
