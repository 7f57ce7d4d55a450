import Pipewright.Deployment.Session
import Pipewright.Deployment.Simulation
import Pipewright.Rehearsal.Script
import Pipewright.Report.Log

/-!
# Rehearsals

A rehearsal plays sessions against a script on a clock of its own. Time stands still while anything
can go on, and then moves to the next moment at which something waits to happen: a pause that ends,
a reply that arrives, a cancellation. Sessions that run at once take turns in order.
-/
namespace Pipewright.Rehearsal

/-- How an errand ends. -/
inductive Ending where
  /-- A session with its outcome. -/
  | session (outcome : Outcome)
  /-- A look at the connection. -/
  | connection (result : Except DeployFault Repository)
  /-- A look at whether a session is under way. -/
  | busy (busy : Bool)
  /-- A wait. -/
  | waited

/-- Something that is done in a rehearsal. -/
inductive Errand where
  /-- A session that only runs when no other one is under way. -/
  | deploy (session : Session Outcome)
  /-- A session that runs in any case. -/
  | walk (session : Session Outcome)
  /-- A look at the connection. -/
  | check (session : Session (Except DeployFault Repository))
  /-- A look at whether a session is under way. -/
  | askBusy
  /-- Nothing. -/
  | wait

/-- What an errand waits for. -/
inductive Phase where
  /-- Its own beginning, at a moment. -/
  | unbegun (wake : Nat)
  /-- The end of a pause, or a cancellation. -/
  | pausing (wake : Nat) (next : Bool → Session Ending)
  /-- A reply, at a moment. -/
  | calling (wake : Nat) (rest : Session Ending)
  /-- A log, at a moment, or a cancellation. -/
  | downloading (wake : Nat) (log : Except RemoteFault String)
      (next : Option (Except RemoteFault String) → Session Ending)
  /-- Nothing, for it is over. -/
  | over (ending : Ending)

/-- A moment, a level and a message. -/
abbrev Note := Nat × Level × String

/-- An errand in the course of a rehearsal. -/
structure Task where
  /-- What is done. -/
  errand : Errand
  /-- What it waits for. -/
  phase : Phase
  /-- Whether it has been cancelled on its own. -/
  cancelled : Bool
  /-- How long after its beginning it will be cancelled. -/
  cancelAfter : Option Nat
  /-- When it will be cancelled, once it has begun. -/
  cancelAt : Option Nat
  /-- Its entries. -/
  log : ProgressLog Note
  /-- The run it follows. -/
  run : Option (UInt64 × String)
  /-- Whether it keeps other sessions out. -/
  excludes : Bool

/-- Everything in a rehearsal but its tasks. -/
structure Scene where
  /-- The time. -/
  now : Nat
  /-- Whether a session that excludes others is under way. -/
  busy : Bool
  /-- Whether every session has been cancelled. -/
  allCancelled : Bool
  /-- The replies to come. -/
  script : Script
  /-- The calls so far, with their moments and credentials. -/
  calls : List (Nat × Credentials × Call)
  /-- The stages entered so far. -/
  stages : List Stage

/-- Whether a task is cancelled. -/
def Task.isCancelled (scene : Scene) (task : Task) : Bool := task.cancelled || scene.allCancelled

/-- Whether a task is over. -/
def Task.isOver (task : Task) : Bool :=
  match task.phase with
  | .over _ => true
  | _ => false

/-- Adds an entry to a task. -/
def Task.tell (scene : Scene) (level : Level) (message : String) (task : Task) : Task :=
  { task with log := task.log.push (scene.now, level, message) }

/-- Notes a call and takes the reply to it from the script. -/
def Scene.take (scene : Scene) (credentials : Credentials) (c : Call) : Scene × Reply :=
  let (reply, script) := scene.script.next c.endpoint
  let reply := reply.getD ⟨usualReply, false, 0⟩
  ({ scene with
      script := script
      calls := scene.calls ++ [(scene.now, credentials, c)]
      allCancelled := scene.allCancelled || reply.cancels }, reply)

/-- Ends a task; a session that excluded others no longer does. -/
def finish (scene : Scene) (task : Task) (ending : Ending) : Scene × Task :=
  ({ scene with busy := Deployment.vacate scene.busy task.excludes },
    { task with phase := .over ending, excludes := false })

/-- Lets a session go on until it waits or ends. -/
def perform : Session Ending → Scene → Task → Scene × Task
  | .done ending, scene, task => finish scene task ending
  | .ask (.enter stage) next, scene, task =>
    perform (next (task.isCancelled scene)) { scene with stages := scene.stages ++ [stage] } task
  | .ask (.tell level message) next, scene, task =>
    perform (next ()) scene (task.tell scene level message)
  | .ask (.follow run url) next, scene, task =>
    perform (next ()) scene { task with run := some (run, url) }
  | .ask (.call credentials c) next, scene, task =>
    let (scene, reply) := scene.take credentials c
    if reply.delay = 0 then perform (next (reply.result c)) scene task
    else
      (scene, { task with phase := .calling (scene.now + reply.delay) (next (reply.result c)) })
  | .ask (.pause milliseconds) next, scene, task =>
    if task.isCancelled scene then perform (next true) scene task
    else if milliseconds = 0 then perform (next false) scene task
    else (scene, { task with phase := .pausing (scene.now + milliseconds) next })
  | .ask (.download credentials job) next, scene, task =>
    if task.isCancelled scene then perform (next none) scene task
    else
      let (scene, reply) := scene.take credentials (.jobLog job)
      let log := reply.result (.jobLog job)
      if reply.delay = 0 then perform (next (some log)) scene task
      else if task.isCancelled scene then perform (next none) scene task
      else (scene, { task with phase := .downloading (scene.now + reply.delay) log next })

/-- Begins an errand. -/
def start (scene : Scene) (task : Task) : Scene × Task :=
  let task := { task with cancelAt := task.cancelAfter.map (scene.now + ·) }
  match task.errand with
  | .deploy session =>
    let admission := Deployment.grant scene.busy session
    perform (admission.session.bind fun outcome => .done (.session outcome))
      { scene with busy := true } { task with excludes := admission.excludes }
  | .walk session => perform (session.bind fun outcome => .done (.session outcome)) scene task
  | .check session => perform (session.bind fun result => .done (.connection result)) scene task
  | .askBusy => (scene, { task with phase := .over (.busy scene.busy) })
  | .wait => (scene, { task with phase := .over .waited })

/-- Lets a task go on if what it waits for has happened, and tells whether it did. -/
def turn (scene : Scene) (task : Task) : Scene × Task × Bool :=
  let goOn (result : Scene × Task) : Scene × Task × Bool := (result.1, result.2, true)
  let stay : Scene × Task × Bool := (scene, task, false)
  match task.phase with
  | .unbegun wake => if wake ≤ scene.now then goOn (start scene task) else stay
  | .pausing wake next =>
    if task.isCancelled scene then goOn (perform (next true) scene task)
    else if wake ≤ scene.now then goOn (perform (next false) scene task)
    else stay
  | .calling wake rest => if wake ≤ scene.now then goOn (perform rest scene task) else stay
  | .downloading wake log next =>
    if task.isCancelled scene then goOn (perform (next none) scene task)
    else if wake ≤ scene.now then goOn (perform (next (some log)) scene task)
    else stay
  | .over _ => stay

/-- Gives every task a turn, and tells whether any went on. -/
def round (scene : Scene) : List Task → Scene × List Task × Bool
  | [] => (scene, [], false)
  | task :: tasks =>
    let (scene, task, moved) := turn scene task
    let (scene, tasks, movedLater) := round scene tasks
    (scene, task :: tasks, moved || movedLater)

/-- The moments at which something happens to a task. -/
def Task.moments (task : Task) : List Nat :=
  match task.phase with
  | .unbegun wake => [wake]
  | .pausing wake _ => wake :: task.cancelAt.toList
  | .calling wake _ => wake :: task.cancelAt.toList
  | .downloading wake _ _ => wake :: task.cancelAt.toList
  | .over _ => []

/-- Whether the time has come to cancel a task. -/
def Task.isDue (now : Nat) (task : Task) : Bool :=
  match task.cancelAt with
  | none => false
  | some moment => moment ≤ now && !task.isOver

/-- Cancels a task whose time for that has come. -/
def Task.fire (now : Nat) (task : Task) : Task :=
  if task.isDue now then { task with cancelled := true, cancelAt := none } else task

/-- Plays tasks until all are over. At any moment the tasks go on as far as they can before one is
cancelled. Fuel bounds the turns, cancellations and moments together. -/
def playAll : Nat → Scene → List Task → Scene × List Task
  | 0, scene, tasks => (scene, tasks)
  | fuel + 1, scene, tasks =>
    let (scene, tasks, moved) := round scene tasks
    if moved then playAll fuel scene tasks
    else if tasks.any (Task.isDue scene.now) then
      playAll fuel scene (tasks.map (Task.fire scene.now))
    else
      match (tasks.flatMap Task.moments).min? with
      | none => (scene, tasks)
      | some moment => playAll fuel { scene with now := moment } tasks

/-- Which listener a session has. -/
inductive Listener where
  /-- None. -/
  | none
  /-- One whose end is closed. -/
  | dropped
  /-- One that listens. -/
  | live
  deriving DecidableEq

/-- A log with such a listener. -/
def Listener.log : Listener → ProgressLog Note
  | none => .empty false
  | dropped => (ProgressLog.empty true).close
  | live => .empty true

/-- A task that begins after a wait. -/
def Task.new (errand : Errand) (start : Nat) (cancelled : Bool) (cancelAfter : Option Nat)
    (listener : Listener) : Task :=
  ⟨errand, .unbegun start, cancelled, cancelAfter, none, listener.log, none, false⟩

/-- An empty scene with a script. -/
def Scene.new (script : Script) : Scene := ⟨0, false, false, script, [], []⟩

/-- The turns and moments that a rehearsal may take. -/
def patience : Nat := Nat.pow 10 9

/-- Plays tasks against a script from the beginning of time. -/
def rehearse (script : Script) (tasks : List Task) : Scene × List Task :=
  playAll patience (Scene.new script) tasks

end Pipewright.Rehearsal
