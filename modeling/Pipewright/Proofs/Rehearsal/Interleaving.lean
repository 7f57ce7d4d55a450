import Pipewright.Proofs.Deployment.Exclusion
import Pipewright.Rehearsal.Clock

/-!
# Rehearsals interleave calls

A rehearsal lets its tasks take turns on one clock. Each turn of a task that deploys is some steps
of a call to one deployer (`turn_deploy`), and a turn of any other task leaves the deployer alone
(`turn_quiet`), so a whole rehearsal is one of the orders in which such calls may go on
(`playAll_mirrors`). What holds of a deployer in any order therefore holds in rehearsals: at most
one task keeps others out, and there is one just when the scene is busy (`playAll_excludes`).
-/
namespace Pipewright.Rehearsal

open Deployer

/-! ## What a task waits for -/

section Tasks

variable {scene : Scene} {task : Task}

/-- Whether a scene and a task are as those before in all that concerns the place. -/
structure IsSamePlace (scene : Scene) (task : Task) (result : Scene × Task) : Prop where
  /-- The place is as free. -/
  busy : result.1.busy = scene.busy
  /-- The task keeps others out if it did. -/
  excludes : result.2.excludes = task.excludes
  /-- Its errand is the same. -/
  errand : result.2.errand = task.errand

/-- Nothing changes where nothing happens. -/
theorem IsSamePlace.refl : IsSamePlace scene task (scene, task) := ⟨rfl, rfl, rfl⟩

/-- What changes nothing twice changes nothing. -/
theorem IsSamePlace.trans {mid result : Scene × Task} (first : IsSamePlace scene task mid)
    (second : IsSamePlace mid.1 mid.2 result) : IsSamePlace scene task result where
  busy := second.busy.trans first.busy
  excludes := second.excludes.trans first.excludes
  errand := second.errand.trans first.errand

/-- How a task waits for the answer to an act. -/
inductive Awaits : (act : Act) → (act.Answer → Session Ending) → Phase → Prop where
  /-- It waits for the end of a pause. -/
  | pausing (wake milliseconds : Nat) (next : Bool → Session Ending) :
      Awaits (.pause milliseconds) next (.pausing wake next)
  /-- It waits for a reply, which is known already and only not to be had yet. -/
  | calling (wake : Nat) (credentials : Credentials) (c : Call)
      (next : c.Result → Session Ending) (result : c.Result) :
      Awaits (.call credentials c) next (.calling wake (next result))
  /-- It waits for a log. -/
  | downloading (wake : Nat) (credentials : Credentials) (job : UInt64)
      (log : Except RemoteFault String)
      (next : Option (Except RemoteFault String) → Session Ending) :
      Awaits (.download credentials job) next (.downloading wake log next)

/-- An act is answered at once, or else the task waits for the answer. -/
theorem perform_ask (act : Act) (next : act.Answer → Session Ending) (scene : Scene)
    (task : Task) :
    ∃ result : Scene × Task,
      ((∃ answer, perform (.ask act next) scene task = perform (next answer) result.1 result.2) ∨
        (Awaits act next result.2.phase ∧ perform (.ask act next) scene task = result)) ∧
      IsSamePlace scene task result := by
  cases act with
  | enter stage => exact ⟨(_, _), .inl ⟨_, rfl⟩, ⟨rfl, rfl, rfl⟩⟩
  | tell level message => exact ⟨(_, _), .inl ⟨(), rfl⟩, ⟨rfl, rfl, rfl⟩⟩
  | follow run url => exact ⟨(_, _), .inl ⟨(), rfl⟩, ⟨rfl, rfl, rfl⟩⟩
  | call credentials c =>
    simp only [perform]
    split
    · exact ⟨(_, _), .inl ⟨_, rfl⟩, ⟨rfl, rfl, rfl⟩⟩
    · exact ⟨(_, _), .inr ⟨.calling _ _ _ _ _, rfl⟩, ⟨rfl, rfl, rfl⟩⟩
  | pause milliseconds =>
    simp only [perform]
    split
    · exact ⟨(_, _), .inl ⟨true, rfl⟩, .refl⟩
    · split
      · exact ⟨(_, _), .inl ⟨false, rfl⟩, .refl⟩
      · exact ⟨(_, _), .inr ⟨.pausing _ _ _, rfl⟩, ⟨rfl, rfl, rfl⟩⟩
  | download credentials job =>
    simp only [perform]
    split
    · exact ⟨(_, _), .inl ⟨none, rfl⟩, .refl⟩
    · split
      · exact ⟨(_, _), .inl ⟨some _, rfl⟩, ⟨rfl, rfl, rfl⟩⟩
      · split
        · exact ⟨(_, _), .inl ⟨none, rfl⟩, ⟨rfl, rfl, rfl⟩⟩
        · exact ⟨(_, _), .inr ⟨.downloading _ _ _ _ _, rfl⟩, ⟨rfl, rfl, rfl⟩⟩

/-- Whether a task goes on with a session once it need not wait any longer. -/
inductive Resumes : Phase → Session Ending → Prop where
  /-- The pause is over, or was cut short. -/
  | pausing (wake : Nat) (next : Bool → Session Ending) (answer : Bool) :
      Resumes (.pausing wake next) (next answer)
  /-- The reply is to be had. -/
  | calling (wake : Nat) (rest : Session Ending) : Resumes (.calling wake rest) rest
  /-- The log is to be had, or not any more. -/
  | downloading (wake : Nat) (log : Except RemoteFault String)
      (next : Option (Except RemoteFault String) → Session Ending)
      (answer : Option (Except RemoteFault String)) :
      Resumes (.downloading wake log next) (next answer)

/-- A task that has waited for the answer to an act goes on with one. -/
theorem Awaits.exists_answer {act : Act} {next : act.Answer → Session Ending} {phase : Phase}
    {rest : Session Ending} (awaits : Awaits act next phase) (resumes : Resumes phase rest) :
    ∃ answer, rest = next answer := by
  cases awaits with
  | pausing wake milliseconds next =>
    cases resumes with
    | pausing _ _ answer => exact ⟨answer, rfl⟩
  | calling wake credentials c next result =>
    cases resumes with
    | calling _ _ => exact ⟨result, rfl⟩
  | downloading wake credentials job log next =>
    cases resumes with
    | downloading _ _ _ answer => exact ⟨answer, rfl⟩

/-- The scene and the task after a turn. -/
def afterTurn (scene : Scene) (task : Task) : Scene × Task :=
  ((turn scene task).1, (turn scene task).2.1)

/-- In its turn a task goes on to wait, begins, or resumes. -/
theorem afterTurn_cases (scene : Scene) (task : Task) :
    afterTurn scene task = (scene, task) ∨
      (∃ wake, task.phase = .unbegun wake) ∧ afterTurn scene task = start scene task ∨
      ∃ rest, Resumes task.phase rest ∧ afterTurn scene task = perform rest scene task := by
  cases waits : task.phase with
  | unbegun wake =>
    simp only [afterTurn, turn, waits]
    split
    · exact .inr (.inl ⟨⟨wake, rfl⟩, rfl⟩)
    · exact .inl rfl
  | pausing wake next =>
    simp only [afterTurn, turn, waits]
    split
    · exact .inr (.inr ⟨_, .pausing _ _ true, rfl⟩)
    · split
      · exact .inr (.inr ⟨_, .pausing _ _ false, rfl⟩)
      · exact .inl rfl
  | calling wake rest =>
    simp only [afterTurn, turn, waits]
    split
    · exact .inr (.inr ⟨_, .calling _ _, rfl⟩)
    · exact .inl rfl
  | downloading wake log next =>
    simp only [afterTurn, turn, waits]
    split
    · exact .inr (.inr ⟨_, .downloading _ _ _ none, rfl⟩)
    · split
      · exact .inr (.inr ⟨_, .downloading _ _ _ (some log), rfl⟩)
      · exact .inl rfl
  | _ =>
    refine .inl ?_
    simp only [afterTurn, turn, waits]

end Tasks

/-! ## Tasks that deploy -/

/-- A session as an errand, which ends with its outcome. -/
def ending (session : Session Outcome) : Session Ending :=
  session.bind fun outcome => .done (.session outcome)

/-- An errand asks what its session asks. -/
theorem ending_ask (act : Act) (next : act.Answer → Session Outcome) :
    ending (.ask act next) = .ask act fun answer => ending (next answer) := rfl

/-- Whether what a task waits for is what a call waits for, the task keeping others out or not. -/
inductive Follows : Bool → Phase → Option Attempt → Prop where
  /-- Neither has begun. -/
  | unbegun (wake : Nat) : Follows false (.unbegun wake) none
  /-- Both wait for the answer to an act. -/
  | waiting {act : Act} {next : act.Answer → Session Outcome} {phase : Phase} (excludes : Bool)
      (turns : List SessionTurn) (awaits : Awaits act (fun answer => ending (next answer)) phase) :
      Follows excludes phase (some ⟨excludes, turns, .waiting act next⟩)
  /-- Both are over. -/
  | ended (letIn : Bool) (turns : List SessionTurn) (outcome : Outcome) :
      Follows false (.over (.session outcome)) (some ⟨letIn, turns, .ended outcome⟩)

/-- A call is inside when its task keeps others out. -/
theorem Follows.any_isInside {excludes : Bool} {phase : Phase} {attempt : Option Attempt}
    (follows : Follows excludes phase attempt) : attempt.any Attempt.isInside = excludes := by
  cases follows with
  | unbegun wake => rfl
  | waiting _ turns awaits => exact Bool.and_true _
  | ended letIn turns outcome => exact Bool.and_false _

section Steps

variable {sessions : Nat → Session Outcome} {k : Nat} {d later : Deployer Nat} {scene : Scene}
  {task : Task}

/-- Some steps of one call. -/
abbrev Steps (sessions : Nat → Session Outcome) (k : Nat) : Deployer Nat → Deployer Nat → Prop :=
  Relation.ReflTransGen (Deployer.Step sessions k)

/-- Steps of one call leave the others as they stand. -/
theorem attempts_of_steps (steps : Steps sessions k d later) {j : Nat} (apart : j ≠ k) :
    later.attempts j = d.attempts j := by
  induction steps with
  | refl => rfl
  | tail _ step ih => exact (step.attempts_of_ne apart).trans ih

/-- Steps of one call are steps of calls. -/
theorem moves_of_steps (steps : Steps sessions k d later) :
    Relation.ReflTransGen (Moves sessions) d later :=
  steps.lift id fun _ _ step => ⟨k, step⟩

/-- Whether steps of a call lead from a deployer to one that stands as a scene and a task do. -/
def Reaches (sessions : Nat → Session Outcome) (k : Nat) (d : Deployer Nat) (errand : Errand)
    (result : Scene × Task) : Prop :=
  ∃ later, Steps sessions k d later ∧ result.1.busy = later.busy ∧
    Follows result.2.excludes result.2.phase (later.attempts k) ∧ result.2.errand = errand

/-- Steps that are taken first lead there, too. -/
theorem Reaches.after {errand : Errand} {result : Scene × Task} (steps : Steps sessions k d later)
    (reaches : Reaches sessions k later errand result) :
    Reaches sessions k d errand result := by
  obtain ⟨last, more, rest⟩ := reaches
  exact ⟨last, steps.trans more, rest⟩

/-- A call that asks is answered in two steps. -/
theorem steps_exchange {excludes : Bool} {turns : List SessionTurn} {act : Act}
    {next : act.Answer → Session Outcome}
    (found : d.attempts k = some ⟨excludes, turns, .going (.ask act next)⟩)
    (answer : act.Answer) :
    ∃ later, Steps sessions k d later ∧ later.busy = d.busy ∧
      later.attempts k = some ⟨excludes, turns ++ [⟨act, answer⟩], .going (next answer)⟩ := by
  have asked : Deployer.Step sessions k d _ := .ask found
  exact ⟨_, .tail (.single asked) (.answer answer attempts_after_self), rfl, attempts_after_self⟩

/-- A call that goes on as its task does reaches where the task stops. -/
theorem perform_deploy (session : Session Outcome) {turns : List SessionTurn}
    (busy : scene.busy = d.busy)
    (found : d.attempts k = some ⟨task.excludes, turns, .going session⟩) :
    Reaches sessions k d task.errand (perform (ending session) scene task) := by
  induction session generalizing scene task d turns with
  | done outcome =>
    refine ⟨_, .single (.finish found), ?_, ?_, rfl⟩
    · exact congrArg (Deployment.vacate · task.excludes) busy
    · rw [attempts_after_self]
      exact .ended _ _ _
  | ask act next ih =>
    obtain ⟨result, stops, same⟩ := perform_ask act (fun answer => ending (next answer)) scene task
    rw [ending_ask]
    rcases stops with ⟨answer, goesOn⟩ | ⟨awaits, waits⟩
    · -- The call is answered, too.
      obtain ⟨mid, steps, free, stands⟩ := steps_exchange found answer
      rw [← same.excludes] at stands
      have reaches := ih answer (same.busy.trans (busy.trans free.symm)) stands
      rw [goesOn, ← same.errand]
      exact reaches.after steps
    · -- The call is only asked.
      rw [waits]
      refine ⟨_, .single (.ask found), same.busy.trans busy, ?_, same.errand⟩
      rw [attempts_after_self, same.excludes]
      exact .waiting _ _ awaits

/-- A task that deploys begins with what its call is granted. -/
theorem start_deploy {session : Session Outcome} (errand : task.errand = .deploy session) :
    start scene task = perform (ending (Deployment.grant scene.busy session).session)
      { scene with busy := true }
      { task with
          cancelAt := task.cancelAfter.map (scene.now + ·)
          excludes := (Deployment.grant scene.busy session).excludes } := by
  simp only [start, errand]
  rfl

/-- A turn of a task that deploys is some steps of its call. -/
theorem turn_deploy (busy : scene.busy = d.busy) (errand : task.errand = .deploy (sessions k))
    (follows : Follows task.excludes task.phase (d.attempts k)) :
    Reaches sessions k d task.errand (afterTurn scene task) := by
  have stays : Reaches sessions k d task.errand (scene, task) := ⟨d, .refl, busy, follows, rfl⟩
  generalize found : d.attempts k = attempt at follows
  rcases afterTurn_cases scene task with same | ⟨⟨wake, waits⟩, begins⟩ | ⟨rest, resumes, goesOn⟩
  · rwa [same]
  · have unbegun : attempt = none := by
      rw [waits] at follows
      generalize task.excludes = excludes at follows
      cases follows with
      | unbegun => rfl
      | waiting _ _ awaits => cases awaits
    have begun : Deployer.Step sessions k d (d.after k _ true []) := .begin (found.trans unbegun)
    rw [begins, start_deploy errand, busy]
    refine Reaches.after (.single begun) ?_
    exact perform_deploy _ rfl attempts_after_self
  · generalize waits : task.phase = phase at follows resumes
    generalize letIn : task.excludes = excludes at follows
    cases follows with
    | unbegun wake => cases resumes
    | waiting _ turns awaits =>
      obtain ⟨answer, rfl⟩ := awaits.exists_answer resumes
      have answered : Deployer.Step sessions k d (d.after k _ d.busy []) := .answer answer found
      rw [goesOn]
      subst letIn
      refine Reaches.after (.single answered) ?_
      exact perform_deploy _ busy attempts_after_self
    | ended _ turns outcome => cases resumes

end Steps

/-! ## Tasks that do not deploy -/

section Quiet

variable {scene : Scene} {task : Task}

/-- A task that keeps nobody out leaves the place as it is. -/
theorem perform_quiet (session : Session Ending) (outside : task.excludes = false) :
    IsSamePlace scene task (perform session scene task) := by
  induction session generalizing scene task with
  | done ending =>
    refine ⟨?_, outside.symm, rfl⟩
    simp [perform, finish, Deployment.vacate, outside]
  | ask act next ih =>
    obtain ⟨result, stops, same⟩ := perform_ask act next scene task
    rcases stops with ⟨answer, goesOn⟩ | ⟨-, waits⟩
    · rw [goesOn]
      exact same.trans (ih answer (same.excludes.trans outside))
    · rwa [waits]

/-- A task that does not deploy leaves the place as it is when it begins. -/
theorem start_quiet (other : ∀ session, task.errand ≠ .deploy session)
    (outside : task.excludes = false) : IsSamePlace scene task (start scene task) := by
  have set : IsSamePlace scene task
      (scene, { task with cancelAt := task.cancelAfter.map (scene.now + ·) }) := ⟨rfl, rfl, rfl⟩
  simp only [start]
  split
  · next session errand => exact absurd errand (other session)
  · exact set.trans (perform_quiet _ outside)
  · exact set.trans (perform_quiet _ outside)
  · exact ⟨rfl, rfl, rfl⟩
  · exact ⟨rfl, rfl, rfl⟩

/-- A turn of a task that does not deploy leaves the place as it is. -/
theorem turn_quiet (other : ∀ session, task.errand ≠ .deploy session)
    (outside : task.excludes = false) : IsSamePlace scene task (afterTurn scene task) := by
  rcases afterTurn_cases scene task with same | ⟨-, begins⟩ | ⟨rest, -, goesOn⟩
  · rw [same]
    exact .refl
  · rw [begins]
    exact start_quiet other outside
  · rw [goesOn]
    exact perform_quiet rest outside

end Quiet

/-! ## All tasks -/

section Mirrors

variable {sessions : Nat → Session Outcome} {scene : Scene} {tasks : List Task}
  {d : Deployer Nat}

/-- Whether a call stands as the task does that makes it, if there is a task: only those that deploy
make calls, and only those keep others out. -/
inductive Stands (session : Session Outcome) : Option Task → Option Attempt → Prop where
  /-- There is no task. -/
  | absent : Stands session none none
  /-- The task deploys. -/
  | deploy {task : Task} {attempt : Option Attempt} (errand : task.errand = .deploy session)
      (follows : Follows task.excludes task.phase attempt) : Stands session (some task) attempt
  /-- The task does anything else. -/
  | quiet {task : Task} (other : ∀ session, task.errand ≠ .deploy session)
      (outside : task.excludes = false) : Stands session (some task) none

/-- A turn of a task is some steps of its call, which may be none. -/
theorem Stands.turn {k : Nat} {task : Task} (stands : Stands (sessions k) task (d.attempts k))
    (busy : scene.busy = d.busy) :
    ∃ later, Steps sessions k d later ∧ (afterTurn scene task).1.busy = later.busy ∧
      Stands (sessions k) (afterTurn scene task).2 (later.attempts k) := by
  generalize found : d.attempts k = attempt at stands
  cases stands with
  | deploy errand follows =>
    rw [← found] at follows
    obtain ⟨later, steps, free, stillFollows, same⟩ := turn_deploy busy errand follows
    exact ⟨later, steps, free, .deploy (same.trans errand) stillFollows⟩
  | quiet other outside =>
    have same : IsSamePlace scene task (afterTurn scene task) := turn_quiet other outside
    refine ⟨d, .refl, same.busy.trans busy, ?_⟩
    rw [found]
    exact .quiet (same.errand ▸ other) (same.excludes.trans outside)

/-- Whether the calls of a deployer from one on stand as tasks do. -/
def StandFrom (sessions : Nat → Session Outcome) (first : Nat) (tasks : List Task)
    (d : Deployer Nat) : Prop :=
  ∀ i, Stands (sessions (first + i)) tasks[i]? (d.attempts (first + i))

/-- Turns of all tasks are steps of their calls. -/
theorem round_moves (first : Nat) (busy : scene.busy = d.busy)
    (stand : StandFrom sessions first tasks d) :
    ∃ later, Relation.ReflTransGen (Moves sessions) d later ∧
      (round scene tasks).1.busy = later.busy ∧
      StandFrom sessions first (round scene tasks).2.1 later ∧
      ∀ i < first, later.attempts i = d.attempts i := by
  induction tasks generalizing scene first d with
  | nil => exact ⟨d, .refl, busy, stand, fun _ _ => rfl⟩
  | cons task tasks ih =>
    have stands : Stands (sessions first) (some task) (d.attempts first) := stand 0
    obtain ⟨mid, steps, free, head⟩ := stands.turn busy
    -- The turn of the first task leaves the calls of the others as they stand.
    have rest : StandFrom sessions (first + 1) tasks mid := by
      intro i
      rw [attempts_of_steps steps (by omega), Nat.add_right_comm]
      exact stand (i + 1)
    obtain ⟨later, moves, freeLater, tail, kept⟩ := ih (first + 1) free rest
    refine ⟨later, (moves_of_steps steps).trans moves, freeLater, ?_, ?_⟩
    · intro i
      cases i with
      | zero =>
        rw [← kept first (Nat.lt_succ_self first)] at head
        exact head
      | succ i =>
        have index : first + (i + 1) = first + 1 + i := by omega
        rw [index]
        exact tail i
    · intro i before
      rw [kept i (Nat.lt_succ_of_lt before), attempts_of_steps steps (Nat.ne_of_lt before)]

/-- Cancelling a task that is due changes nothing in what it waits for. -/
theorem Stands.fire {session : Session Outcome} {task : Task} {attempt : Option Attempt}
    (stands : Stands session task attempt) (now : Nat) :
    Stands session (task.fire now) attempt := by
  unfold Task.fire
  split
  · cases stands with
    | deploy errand follows => exact .deploy errand follows
    | quiet other outside => exact .quiet other outside
  · exact stands

/-- Cancelling the tasks that are due changes nothing in how their calls stand. -/
theorem StandFrom.fire {first : Nat} (stand : StandFrom sessions first tasks d) (now : Nat) :
    StandFrom sessions first (tasks.map (Task.fire now)) d := by
  intro i
  have before := stand i
  rw [List.getElem?_map]
  generalize tasks[i]? = task at before
  cases task with
  | none => exact before
  | some task => exact before.fire now

/-- As long as a rehearsal goes on, the calls of a deployer go on with it. -/
theorem playAll_moves (fuel : Nat) (busy : scene.busy = d.busy)
    (stand : StandFrom sessions 0 tasks d) :
    ∃ later, Relation.ReflTransGen (Moves sessions) d later ∧
      (playAll fuel scene tasks).1.busy = later.busy ∧
      StandFrom sessions 0 (playAll fuel scene tasks).2 later := by
  induction fuel generalizing scene tasks d with
  | zero => exact ⟨d, .refl, busy, stand⟩
  | succ fuel ih =>
    obtain ⟨mid, moves, free, standMid, -⟩ := round_moves 0 busy stand
    have goesOn : ∀ scene' tasks', scene'.busy = mid.busy → StandFrom sessions 0 tasks' mid →
        ∃ later, Relation.ReflTransGen (Moves sessions) d later ∧
          (playAll fuel scene' tasks').1.busy = later.busy ∧
          StandFrom sessions 0 (playAll fuel scene' tasks').2 later := by
      intro scene' tasks' free' stand'
      obtain ⟨later, more, rest⟩ := ih free' stand'
      exact ⟨later, moves.trans more, rest⟩
    simp only [playAll]
    split
    · exact goesOn _ _ free standMid
    · split
      · exact goesOn _ _ free (standMid.fire _)
      · split
        · exact ⟨mid, moves, free, standMid⟩
        · exact goesOn _ _ free standMid

/-- Whether a task has not begun. -/
structure IsFresh (task : Task) : Prop where
  /-- It waits for its own beginning. -/
  unbegun : ∃ wake, task.phase = .unbegun wake
  /-- It keeps nobody out. -/
  outside : task.excludes = false

/-- The sessions of the tasks that deploy; no call is made for any other task. -/
def sessionsOf (tasks : List Task) (i : Nat) : Session Outcome :=
  match tasks[i]?.map Task.errand with
  | some (.deploy session) => session
  | _ => Deployment.refusal

/-- No call has been made for tasks that have not begun. -/
theorem standFrom_of_fresh (fresh : ∀ task ∈ tasks, IsFresh task) :
    StandFrom (sessionsOf tasks) 0 tasks idle := by
  intro i
  rw [Nat.zero_add, sessionsOf]
  cases found : tasks[i]? with
  | none => exact .absent
  | some task =>
    obtain ⟨⟨wake, waits⟩, outside⟩ := fresh task (List.mem_of_getElem? found)
    cases errand : task.errand with
    | deploy session =>
      refine .deploy ?_ ?_
      · simp [errand]
      · rw [waits, outside]
        exact .unbegun wake
    | walk session => exact .quiet (errand ▸ nofun) outside
    | check session => exact .quiet (errand ▸ nofun) outside
    | askBusy => exact .quiet (errand ▸ nofun) outside
    | wait => exact .quiet (errand ▸ nofun) outside

/-- However long a rehearsal goes on, it is one of the orders in which calls to one deployer may go
on. -/
theorem playAll_mirrors (fuel : Nat) (script : Script) (fresh : ∀ task ∈ tasks, IsFresh task) :
    ∃ d, Reachable (sessionsOf tasks) d ∧
      (playAll fuel (.new script) tasks).1.busy = d.busy ∧
      StandFrom (sessionsOf tasks) 0 (playAll fuel (.new script) tasks).2 d :=
  playAll_moves fuel rfl (standFrom_of_fresh fresh)

/-- A call is inside when there is a task for it that keeps others out. -/
theorem StandFrom.holds_iff (stand : StandFrom sessions 0 tasks d) (i : Nat) :
    d.Holds i ↔ ∃ task, tasks[i]? = some task ∧ task.excludes = true := by
  have stands := stand i
  rw [Nat.zero_add] at stands
  rw [Holds]
  generalize tasks[i]? = task, d.attempts i = attempt at stands
  cases stands with
  | absent => simp
  | deploy errand follows => simp [follows.any_isInside]
  | quiet other outside => simp [outside]

/-- In a rehearsal at most one task keeps others out, and there is one just when the scene is
busy. -/
theorem playAll_excludes (fuel : Nat) (script : Script)
    (fresh : ∀ task ∈ tasks, IsFresh task) {result : Scene × List Task}
    (played : playAll fuel (.new script) tasks = result) :
    (∀ (i j : Nat) (one other : Task), result.2[i]? = some one → result.2[j]? = some other →
      one.excludes = true → other.excludes = true → i = j) ∧
    (result.1.busy = true ↔ ∃ task ∈ result.2, task.excludes = true) := by
  obtain ⟨d, reachable, busy, stand⟩ := playAll_mirrors fuel script fresh
  obtain ⟨guarded, -, -⟩ := reachable.invariant
  subst played
  constructor
  · intro i j one other first second firstIn secondIn
    exact guarded.one_inside i j ((stand.holds_iff i).mpr ⟨one, first, firstIn⟩)
      ((stand.holds_iff j).mpr ⟨other, second, secondIn⟩)
  · rw [busy, guarded.busy_iff]
    constructor
    · rintro ⟨i, inside⟩
      obtain ⟨task, found, excludes⟩ := (stand.holds_iff i).mp inside
      exact ⟨task, List.mem_of_getElem? found, excludes⟩
    · rintro ⟨task, member, excludes⟩
      obtain ⟨i, found⟩ := List.getElem?_of_mem member
      exact ⟨i, (stand.holds_iff i).mpr ⟨task, found, excludes⟩⟩

end Mirrors

end Pipewright.Rehearsal
