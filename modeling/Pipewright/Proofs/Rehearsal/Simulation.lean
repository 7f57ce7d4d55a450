import Pipewright.Proofs.Deployment.History
import Pipewright.Proofs.Rehearsal.Alone
import Pipewright.Proofs.Rehearsal.Interleaving

/-!
# Simulated runs that are cancelled

A simulated run is a pace of pauses with entries after each of them (`session_eq_paced`). As long as
no cancellation comes, it goes on from pause to pause, and each entry has its moment in the
`timeline`; a cancellation ends the pause in which it comes, and the run with it. So a cancelled run
has the entries of the whole run up to its cancellation, and one that says so
(`simulation_truncates`); whoever answers its pauses, it tells nothing else (`ensures_session`).
-/
namespace Pipewright.Simulation

open Rehearsal

/-- A level and a message. -/
abbrev Line := Level × String

/-! ## The pace of a simulated run -/

/-- Tells lines and then goes on. -/
def tellAll (lines : List Line) (rest : Session Outcome) : Session Outcome :=
  lines.foldr (fun line rest => .ask (.tell line.1 line.2) fun _ => rest) rest

/-- What a cancellation leads to. -/
def cancelled : Session Outcome :=
  .ask (.tell DeployFault.cancelled.level DeployFault.cancelled.line) fun _ =>
    .done DeployFault.cancelled.outcome

/-- Tells groups of lines, each after a pause, and then goes on; a pause that is cut short is the
end. -/
def paced (groups : List (List Line)) (rest : Session Outcome) : Session Outcome :=
  groups.foldr (fun lines rest => .ask (.pause stepLength) fun isCut =>
    bif isCut then cancelled else tellAll lines rest) rest

/-- The lines about a job. -/
def jobLines (job : String) : List Line :=
  [(.info, "[" ++ job ++ "] Started"), (.info, "[" ++ job ++ "] Processing..."),
    (.info, "[" ++ job ++ "] Running commands..."),
    (.success, "[" ++ job ++ "] Completed successfully")]

/-- The line that is told before any pause. -/
def firstLine : Line := (.info, "Initializing pipeline...")

/-- The lines that are told after the first pause. -/
def modeLines (jobs : List String) : List Line :=
  (.info, "Running in simulation mode (no repository connected)") ::
    if jobs.isEmpty then [(.warning, "No jobs defined; nothing to run.")] else []

/-- The line that is told after the last pause. -/
def lastLine : Line := (.success, "✅ Pipeline execution completed successfully.")

/-- The lines that a simulated run tells after its first one, by its pauses. -/
def groups (jobs : List String) : List (List Line) :=
  modeLines jobs :: ((jobs.flatMap jobLines).map ([·]) ++ [[lastLine]])

/-- A pace goes on with the rest of its groups. -/
theorem paced_append (early late : List (List Line)) (rest : Session Outcome) :
    paced (early ++ late) rest = paced early (paced late rest) := List.foldr_append

/-- A pause that is the end when it is cut short, and lines after it, are the beginning of a
pace. -/
theorem ask_pause_eq {next : Bool → Session Outcome} {lines : List Line} {later : List (List Line)}
    {rest : Session Outcome} (ends : next true = cancelled)
    (goesOn : next false = tellAll lines (paced later rest)) :
    .ask (.pause stepLength) next = paced (lines :: later) rest := by
  refine congrArg (Dialogue.ask (Act.pause stepLength)) (funext fun isCut => ?_)
  cases isCut with
  | true => exact ends
  | false => exact goesOn

/-- So is such a pause with one line after it. -/
theorem ask_pause_tell_eq {next : Bool → Session Outcome} {after : Unit → Session Outcome}
    {line : Line} {later : List (List Line)} {rest : Session Outcome}
    (ends : next true = cancelled) (tells : next false = .ask (.tell line.1 line.2) after)
    (goesOn : after () = paced later rest) :
    .ask (.pause stepLength) next = paced ([line] :: later) rest := by
  refine ask_pause_eq ends (tells.trans ?_)
  exact congrArg (Dialogue.ask (Act.tell line.1 line.2)) (funext fun _ => goesOn)

/-- Walking through jobs tells the lines about them one by one. -/
theorem ofProcedure_walkJobs (jobs : List String) (next : Unit → Procedure Outcome) :
    Session.ofProcedure (walkJobs jobs >>= next) =
      paced ((jobs.flatMap jobLines).map ([·])) (Session.ofProcedure (next ())) := by
  induction jobs with
  | nil => rfl
  | cons job jobs ih =>
    refine ask_pause_tell_eq rfl rfl ?_
    refine ask_pause_tell_eq rfl rfl ?_
    refine ask_pause_tell_eq rfl rfl ?_
    exact ask_pause_tell_eq rfl rfl ih

/-- The steps of a simulated run after its jobs. -/
def conclusion : Procedure Outcome := do
  Procedure.pause stepLength
  Procedure.ask (.tell lastLine.1 lastLine.2)
  pure .success

/-- A simulated run is a first line, and the others at their pace. -/
theorem session_eq_paced (jobs : List String) :
    session jobs = .ask (.tell firstLine.1 firstLine.2) fun _ =>
      paced (groups jobs) (.done .success) := by
  have last : Session.ofProcedure conclusion = paced [[lastLine]] (.done .success) :=
    ask_pause_tell_eq rfl rfl rfl
  have walked := ofProcedure_walkJobs jobs fun _ => conclusion
  rw [groups, ← List.cons_append, paced_append, ← last]
  refine congrArg (Dialogue.ask _) (funext fun _ => ?_)
  cases jobs with
  | nil => exact ask_pause_eq rfl rfl
  | cons job jobs => exact ask_pause_tell_eq rfl rfl walked

/-! ## Going on and being cut short -/

/-- Whether a task has come to be another one by entries only. -/
structure HasNoted (task : Task) (notes : List Note) (later : Task) : Prop where
  /-- It has these entries more. -/
  entries : later.log.entries = task.log.entries ++ notes
  /-- It is as cancelled. -/
  cancelled : later.cancelled = task.cancelled
  /-- It will be cancelled when it would have been. -/
  cancelAt : later.cancelAt = task.cancelAt
  /-- It follows the same run. -/
  run : later.run = task.run
  /-- It keeps others out if it did. -/
  excludes : later.excludes = task.excludes

/-- Entries after entries are entries. -/
theorem HasNoted.trans {task mid later : Task} {notes more : List Note}
    (first : HasNoted task notes mid) (second : HasNoted mid more later) :
    HasNoted task (notes ++ more) later where
  entries := by rw [second.entries, first.entries, List.append_assoc]
  cancelled := second.cancelled.trans first.cancelled
  cancelAt := second.cancelAt.trans first.cancelAt
  run := second.run.trans first.run
  excludes := second.excludes.trans first.excludes

/-- A task that tells lines has noted them at the moment at which it does. -/
theorem perform_tellAll (lines : List Line) (rest : Session Outcome) (scene : Scene)
    (task : Task) : ∃ later, HasNoted task (lines.map (scene.now, ·)) later ∧
      perform (ending (tellAll lines rest)) scene task = perform (ending rest) scene later := by
  induction lines generalizing task with
  | nil => exact ⟨task, ⟨(List.append_nil _).symm, rfl, rfl, rfl, rfl⟩, rfl⟩
  | cons line lines ih =>
    obtain ⟨later, noted, same⟩ := ih (task.tell scene line.1 line.2)
    have told : HasNoted task [(scene.now, line)] (task.tell scene line.1 line.2) :=
      ⟨rfl, rfl, rfl, rfl, rfl⟩
    exact ⟨later, told.trans noted, same⟩

/-- The entries of groups of lines that are told each after a pause, from a moment on. -/
def notesFrom (now : Nat) : List (List Line) → List Note
  | [] => []
  | lines :: later =>
    lines.map (now + stepLength, ·) ++ notesFrom (now + stepLength) later

/-- A pace from a moment on ends when the rest of it does from its first pause on. -/
theorem moment_cons (now : Nat) (lines : List Line) (later : List (List Line)) :
    now + stepLength * (lines :: later).length =
      now + stepLength + stepLength * later.length := by
  rw [List.length_cons, Nat.mul_succ]
  omega

section Pace

variable {scene : Scene} {task : Task}

/-- A task that has reached a pause of its pace. -/
def pausing (lines : List Line) (later : List (List Line)) (rest : Session Outcome)
    (scene : Scene) (task : Task) : Task :=
  { task with
    phase := .pausing (scene.now + stepLength) fun isCut =>
      ending (bif isCut then cancelled else tellAll lines (paced later rest)) }

/-- A task at its pace pauses unless it is cancelled. -/
theorem perform_paced (calm : task.isCancelled scene = false) (lines : List Line)
    (later : List (List Line)) (rest : Session Outcome) :
    perform (ending (paced (lines :: later) rest)) scene task =
      (scene, pausing lines later rest scene task) := by
  change (if task.isCancelled scene = true then _ else _) = _
  rw [calm]
  rfl

/-- A task at its pace tells the next lines after the next pause. -/
theorem arrives_step (lines : List Line) (later : List (List Line)) (rest : Session Outcome)
    (calm : task.isCancelled scene = false)
    (free : ∀ moment ∈ task.cancelAt, scene.now + stepLength < moment) :
    ∃ told, HasNoted task (lines.map (scene.now + stepLength, ·)) told ∧
      Arrives 2 (perform (ending (paced (lines :: later) rest)) scene task)
        (perform (ending (paced later rest)) { scene with now := scene.now + stepLength }
          told) := by
  obtain ⟨told, noted, same⟩ := perform_tellAll lines (paced later rest)
    { scene with now := scene.now + stepLength } (pausing lines later rest scene task)
  refine ⟨told, ⟨noted.entries, noted.cancelled, noted.cancelAt, noted.run, noted.excludes⟩, ?_⟩
  rw [perform_paced calm, ← same]
  have waits : (pausing lines later rest scene task).phase = .pausing _ _ := rfl
  exact arrives_waited waits calm (Nat.lt_add_of_pos_right (by decide)) free

/-- A task that is not cancelled meanwhile tells what it has to tell at its pace. -/
theorem arrives_paced (early : List (List Line)) (rest : Session Outcome)
    (calm : task.isCancelled scene = false)
    (free : ∀ moment ∈ task.cancelAt, scene.now + stepLength * early.length < moment) :
    ∃ told, HasNoted task (notesFrom scene.now early) told ∧
      Arrives (2 * early.length) (perform (ending (paced early rest)) scene task)
        (perform (ending rest) { scene with now := scene.now + stepLength * early.length }
          told) := by
  induction early generalizing scene task with
  | nil => exact ⟨task, ⟨(List.append_nil _).symm, rfl, rfl, rfl, rfl⟩, .refl _⟩
  | cons lines early ih =>
    have steps : 2 * (lines :: early).length = 2 + 2 * early.length := by
      rw [List.length_cons]
      omega
    rw [moment_cons] at free ⊢
    rw [steps]
    obtain ⟨mid, first, arrives⟩ := arrives_step lines early rest calm fun moment cancels =>
      Nat.lt_of_le_of_lt (Nat.le_add_right _ _) (free moment cancels)
    have stillCalm : mid.isCancelled { scene with now := scene.now + stepLength } = false := by
      rw [Task.isCancelled, first.cancelled]
      exact calm
    obtain ⟨told, later, goesOn⟩ := ih stillCalm (by rw [first.cancelAt]; exact free)
    exact ⟨told, first.trans later, arrives.trans goesOn⟩

/-- Whether a run that has noted some entries since a task ends at a moment with an outcome. -/
structure EndsAt (scene : Scene) (task : Task) (moment : Nat) (notes : List Note)
    (outcome : Outcome) (result : Scene × Task) : Prop where
  /-- Nothing but the time has changed around it. -/
  scene : result.1 = { scene with now := moment }
  /-- It has the outcome. -/
  phase : result.2.phase = .over (.session outcome)
  /-- It has these entries more. -/
  entries : result.2.log.entries = task.log.entries ++ notes
  /-- It follows the same run. -/
  run : result.2.run = task.run

/-- The entry that says that a run was cancelled. -/
def cancelNote (moment : Nat) : Note := (moment, .warning, "⚠️ Deployment cancelled")

/-- A run that is over ends with what it has noted. -/
theorem endsAt_done (outside : task.excludes = false) (outcome : Outcome) :
    EndsAt scene task scene.now [] outcome (perform (ending (.done outcome)) scene task) where
  scene := by
    change ({ scene with busy := Deployment.vacate scene.busy task.excludes } : Scene) = _
    simp [Deployment.vacate, outside]
  phase := rfl
  entries := (List.append_nil _).symm
  run := rfl

/-- A run that is cancelled ends with an entry that says so. -/
theorem endsAt_cancelled (outside : task.excludes = false) :
    EndsAt scene task scene.now [cancelNote scene.now] .indeterminate
      (perform (ending cancelled) scene task) := by
  have stays : (task.tell scene DeployFault.cancelled.level DeployFault.cancelled.line).excludes =
      false := outside
  have ends : EndsAt scene _ _ _ _ _ := endsAt_done stays DeployFault.cancelled.outcome
  exact ⟨ends.scene, ends.phase, rfl, ends.run⟩

/-- A cancellation ends the pause in which it comes, and the run with it. -/
theorem arrives_cancelled (lines : List Line) (later : List (List Line)) (rest : Session Outcome)
    (calm : task.isCancelled scene = false) (outside : task.excludes = false) {moment : Nat}
    (cancels : task.cancelAt = some moment) (ahead : scene.now < moment)
    (early : moment < scene.now + stepLength) :
    ∃ result, EndsAt scene task moment [cancelNote moment] .indeterminate result ∧
      Arrives 3 (perform (ending (paced (lines :: later) rest)) scene task) result := by
  have waits : (pausing lines later rest scene task).phase = .pausing _ _ := rfl
  have cut := arrives_cut waits calm cancels ahead early
  rw [← perform_paced calm] at cut
  have ends : EndsAt { scene with now := moment }
      { pausing lines later rest scene task with cancelled := true, cancelAt := none } _ _ _ _ :=
    endsAt_cancelled outside
  exact ⟨_, ⟨ends.scene, ends.phase, ends.entries, ends.run⟩, cut⟩

/-- A run that is not cancelled meanwhile succeeds after all it has to tell. -/
theorem arrives_whole (all : List (List Line)) (calm : task.isCancelled scene = false)
    (outside : task.excludes = false)
    (free : ∀ moment ∈ task.cancelAt, scene.now + stepLength * all.length < moment) :
    ∃ result, EndsAt scene task (scene.now + stepLength * all.length) (notesFrom scene.now all)
        .success result ∧
      Arrives (2 * all.length) (perform (ending (paced all (.done .success))) scene task)
        result := by
  obtain ⟨told, noted, arrives⟩ := arrives_paced all (.done .success) calm free
  have ends : EndsAt { scene with now := scene.now + stepLength * all.length } told _ _ _ _ :=
    endsAt_done (noted.excludes.trans outside) .success
  refine ⟨_, ⟨ends.scene, ends.phase, ?_, ends.run.trans noted.run⟩, arrives⟩
  rw [ends.entries, noted.entries, List.append_nil]

/-- A run that is cancelled on the way ends there. -/
theorem arrives_part {early late : List (List Line)} (calm : task.isCancelled scene = false)
    (outside : task.excludes = false) {moment : Nat} (cancels : task.cancelAt = some moment)
    (ahead : scene.now + stepLength * early.length < moment)
    (before : moment < scene.now + stepLength * (early.length + 1)) (left : late ≠ []) :
    ∃ result, EndsAt scene task moment (notesFrom scene.now early ++ [cancelNote moment])
        .indeterminate result ∧
      Arrives (2 * early.length + 3)
        (perform (ending (paced (early ++ late) (.done .success))) scene task) result := by
  obtain ⟨told, noted, arrives⟩ := arrives_paced early (paced late (.done .success)) calm
    (by simpa [cancels] using ahead)
  cases late with
  | nil => exact absurd rfl left
  | cons lines late =>
    have stillCalm :
        told.isCancelled { scene with now := scene.now + stepLength * early.length } = false := by
      rw [Task.isCancelled, noted.cancelled]
      exact calm
    obtain ⟨result, ends, cut⟩ := arrives_cancelled lines late (.done .success) stillCalm
      (noted.excludes.trans outside) (noted.cancelAt.trans cancels) ahead
      (by rw [Nat.mul_succ, ← Nat.add_assoc] at before; exact before)
    refine ⟨result, ⟨ends.scene, ends.phase, ?_, ends.run.trans noted.run⟩, ?_⟩
    · rw [ends.entries, noted.entries, List.append_assoc]
    · rw [paced_append]
      exact arrives.trans cut

end Pace

/-! ## The entries of a simulated run -/

/-- The entries of some groups and others are those of the ones and then those of the others. -/
theorem notesFrom_append (now : Nat) (early late : List (List Line)) :
    notesFrom now (early ++ late) =
      notesFrom now early ++ notesFrom (now + stepLength * early.length) late := by
  induction early generalizing now with
  | nil => rfl
  | cons lines early ih =>
    rw [moment_cons, List.cons_append, notesFrom, ih, notesFrom, List.append_assoc]

/-- Entries come after the first pause, and not after the last one. -/
theorem moment_of_mem_notesFrom {now : Nat} {all : List (List Line)} {note : Note}
    (member : note ∈ notesFrom now all) :
    now + stepLength ≤ note.1 ∧ note.1 ≤ now + stepLength * all.length := by
  induction all generalizing now with
  | nil => cases member
  | cons lines all ih =>
    rw [List.length_cons, Nat.mul_succ]
    rcases List.mem_append.mp member with first | later
    · obtain ⟨line, -, rfl⟩ := List.mem_map.mp first
      dsimp only
      omega
    · have bounds := ih later
      omega

/-- A moment between two pauses comes after the end of the one and before that of the other. -/
theorem between_pauses {moment : Nat} (between : ¬ stepLength ∣ moment) :
    stepLength * (moment / stepLength) < moment ∧
      moment < stepLength * (moment / stepLength + 1) := by
  simp only [stepLength] at between ⊢
  omega

/-- The entries before a moment between two pauses are those of the pauses before it. -/
theorem filter_notesFrom {moment : Nat} (between : ¬ stepLength ∣ moment)
    (all : List (List Line)) :
    (notesFrom 0 all).filter (fun note => decide (note.1 < moment)) =
      notesFrom 0 (all.take (moment / stepLength)) := by
  have apart := between_pauses between
  have early : ∀ note ∈ notesFrom 0 (all.take (moment / stepLength)), note.1 < moment := by
    intro note member
    have bound := (moment_of_mem_notesFrom member).2
    have few := Nat.mul_le_mul_left stepLength (List.length_take_le (moment / stepLength) all)
    omega
  have late : ∀ note ∈ notesFrom (0 + stepLength * (all.take (moment / stepLength)).length)
      (all.drop (moment / stepLength)), ¬ note.1 < moment := by
    intro note member
    have bound := (moment_of_mem_notesFrom member).1
    rcases Nat.lt_or_ge (moment / stepLength) all.length with reached | beyond
    · rw [List.length_take_of_le (Nat.le_of_lt reached)] at bound
      rw [Nat.mul_succ] at apart
      omega
    · rw [List.drop_eq_nil_of_le beyond] at member
      cases member
  have split := notesFrom_append 0 (all.take (moment / stepLength))
    (all.drop (moment / stepLength))
  rw [List.take_append_drop] at split
  rw [split, List.filter_append, List.filter_eq_self.mpr (by simpa using early),
    List.filter_eq_nil_iff.mpr (by simpa using late), List.append_nil]

/-- The entries about a job whose first one is made at a moment. -/
def stageNotes (start : Nat) (job : String) : List Note :=
  (jobLines job).zipIdx.map fun (line, i) => (start + stepLength * i, line)

/-- The last entry of a run that is not cancelled. -/
def closingNote (jobs : List String) : Note := (stepLength * (4 * jobs.length + 2), lastLine)

/-- The entries of a run that is not cancelled. -/
def timeline (jobs : List String) : List Note :=
  (0, firstLine) :: (modeLines jobs).map (stepLength, ·) ++
    (jobs.zipIdx.flatMap fun (job, i) => stageNotes (stepLength * (4 * i + 2)) job) ++
    [closingNote jobs]

/-- The entries about jobs are those of their lines. -/
theorem notesFrom_jobLines (i : Nat) (jobs : List String) :
    notesFrom (stepLength * (4 * i + 1)) ((jobs.flatMap jobLines).map ([·])) =
      (jobs.zipIdx i).flatMap fun (job, i) => stageNotes (stepLength * (4 * i + 2)) job := by
  induction jobs generalizing i with
  | nil => rfl
  | cons job jobs ih =>
    have moves : stepLength * (4 * i + 1) + stepLength + stepLength + stepLength + stepLength =
        stepLength * (4 * (i + 1) + 1) := by
      simp only [stepLength]
      omega
    have later := ih (i + 1)
    rw [← moves] at later
    rw [List.zipIdx_cons, List.flatMap_cons, List.flatMap_cons, ← later]
    rfl

/-- A job has four lines. -/
theorem length_flatMap_jobLines (jobs : List String) :
    ((jobs.flatMap jobLines).map ([·])).length = 4 * jobs.length := by
  rw [List.length_map]
  induction jobs with
  | nil => rfl
  | cons job jobs ih =>
    rw [List.flatMap_cons, List.length_append, ih, List.length_cons, Nat.mul_succ, Nat.add_comm]
    rfl

/-- The pauses of a run. -/
theorem length_groups (jobs : List String) : (groups jobs).length = 4 * jobs.length + 2 := by
  rw [groups, List.length_cons, List.length_append, length_flatMap_jobLines]
  rfl

/-- The entries of a whole run are those of its lines. -/
theorem timeline_eq (jobs : List String) :
    timeline jobs = (0, firstLine) :: notesFrom 0 (groups jobs) := by
  have stages := notesFrom_jobLines 0 jobs
  have moves : stepLength + stepLength * (4 * jobs.length) + stepLength =
      stepLength * (4 * jobs.length + 2) := by
    simp only [stepLength]
    omega
  rw [Nat.mul_zero, Nat.zero_add, Nat.mul_one] at stages
  rw [groups, notesFrom, notesFrom_append, length_flatMap_jobLines, Nat.zero_add, stages]
  simp only [notesFrom, moves, timeline, closingNote, List.map_cons, List.map_nil,
    List.append_nil, List.cons_append, List.append_assoc]

/-! ## The acts of a simulated run -/

/-- The turns that lead to an entry: it is told after a pause, unless it is the first one or a
warning. -/
def turnsOf (note : Note) : List SessionTurn :=
  (if note.1 = 0 ∨ note.2.1 = .warning then [] else [⟨.pause stepLength, false⟩]) ++
    [⟨.tell note.2.1 note.2.2, ()⟩]

section Acts

variable {σ : Type} {partner : σ → (act : Act) → act.Answer × σ} {turns : List SessionTurn}

/-- A session that tells lines has turns that tell them. -/
theorem history_tellAll {rest : Session Outcome}
    (later : ∀ state, rest.history partner state = turns) (lines : List Line) (state : σ) :
    (tellAll lines rest).history partner state = tells lines ++ turns := by
  induction lines generalizing state with
  | nil => exact later state
  | cons line lines ih => exact congrArg _ (ih _)

/-- A pace of which no pause is cut short has turns that pause and tell. -/
theorem history_paced {rest : Session Outcome}
    (calm : ∀ state milliseconds, (partner state (.pause milliseconds)).1 = false)
    (later : ∀ state, rest.history partner state = turns) (all : List (List Line)) (state : σ) :
    (paced all rest).history partner state =
      all.flatMap (fun lines => ⟨.pause stepLength, false⟩ :: tells lines) ++ turns := by
  induction all generalizing state with
  | nil => exact later state
  | cons lines all ih =>
    have answer := calm state stepLength
    have told := history_tellAll ih lines (partner state (.pause stepLength)).2
    change ⟨.pause stepLength, (partner state (.pause stepLength)).1⟩ ::
      (bif (partner state (.pause stepLength)).1 then cancelled
        else tellAll lines (paced all rest)).history partner _ = _
    rw [answer, cond_false, told, List.flatMap_cons, List.cons_append, List.cons_append,
      List.append_assoc]

/-- Whether the first line of a group is no warning, and all others are. -/
def IsStep : List Line → Prop
  | [] => False
  | line :: warnings => line.1 ≠ .warning ∧ ∀ warning ∈ warnings, warning.1 = .warning

/-- Warnings are told without a pause before them. -/
theorem flatMap_turnsOf_warnings {warnings : List Line}
    (warned : ∀ warning ∈ warnings, warning.1 = .warning) (now : Nat) :
    (warnings.map (now, ·)).flatMap turnsOf = tells warnings := by
  induction warnings with
  | nil => rfl
  | cons warning warnings ih =>
    obtain ⟨first, others⟩ := List.forall_mem_cons.mp warned
    rw [List.map_cons, List.flatMap_cons, ih others]
    simp [turnsOf, first, tells]

/-- The turns that lead to the entries of groups of lines are those of a pace. -/
theorem flatMap_turnsOf {all : List (List Line)} (steps : ∀ lines ∈ all, IsStep lines) (now : Nat) :
    (notesFrom now all).flatMap turnsOf =
      all.flatMap fun lines => ⟨.pause stepLength, false⟩ :: tells lines := by
  induction all generalizing now with
  | nil => rfl
  | cons lines all ih =>
    have later := ih (fun other among => steps other (List.mem_cons_of_mem _ among))
      (now + stepLength)
    rw [notesFrom, List.flatMap_append, later, List.flatMap_cons]
    refine congrArg (· ++ _) ?_
    cases lines with
    | nil => exact (steps [] List.mem_cons_self).elim
    | cons line warnings =>
      obtain ⟨calm, warned⟩ := steps _ List.mem_cons_self
      have first : turnsOf (now + stepLength, line) =
          [⟨.pause stepLength, false⟩, ⟨.tell line.1 line.2, ()⟩] := by
        have waits : now + stepLength ≠ 0 := by
          simp only [stepLength]
          omega
        rw [turnsOf, if_neg (by simp only [waits, calm, or_self, not_false_eq_true])]
        rfl
      rw [List.map_cons, List.flatMap_cons, flatMap_turnsOf_warnings warned, first]
      rfl

/-- Each pause of a run is followed by one line, and by a warning if there are no jobs. -/
theorem isStep_of_mem_groups {jobs : List String} :
    ∀ lines ∈ groups jobs, IsStep lines := by
  have alone (line : Line) (calm : line.1 ≠ .warning) : IsStep [line] := ⟨calm, nofun⟩
  refine List.forall_mem_cons.mpr ⟨⟨nofun, ?_⟩, List.forall_mem_append.mpr ⟨?_, ?_⟩⟩
  · cases jobs with
    | nil => simp
    | cons job jobs => exact nofun
  · intro lines among
    obtain ⟨line, told, rfl⟩ := List.mem_map.mp among
    obtain ⟨job, -, ofJob⟩ := List.mem_flatMap.mp told
    refine alone line fun isWarning => ?_
    simp only [jobLines, List.mem_cons, List.not_mem_nil, or_false] at ofJob
    rcases ofJob with rfl | rfl | rfl | rfl <;> cases isWarning
  · exact List.forall_mem_singleton.mpr (alone _ nofun)

/-- A run of which no pause is cut short pauses once before each of its lines but the first one and
a warning. -/
theorem history_session {σ : Type} {partner : σ → (act : Act) → act.Answer × σ}
    (calm : ∀ state milliseconds, (partner state (.pause milliseconds)).1 = false)
    (jobs : List String) (state : σ) :
    (session jobs).history partner state = (timeline jobs).flatMap turnsOf := by
  have ends (state : σ) :
      (Dialogue.done Outcome.success : Session Outcome).history partner state = [] := rfl
  have turns := history_paced calm ends (groups jobs)
    (partner state (.tell firstLine.1 firstLine.2)).2
  rw [session_eq_paced, timeline_eq, List.flatMap_cons, flatMap_turnsOf isStep_of_mem_groups]
  rw [List.append_nil] at turns
  exact congrArg _ turns

end Acts

/-! ## What a simulated run tells -/

/-- The lines of a whole walk through jobs. -/
def walkLines (jobs : List String) : List Line :=
  firstLine :: (modeLines jobs ++ jobs.flatMap jobLines ++ [lastLine])

/-- The line that says that a run was cancelled. -/
def cancelLine : Line := (.warning, "⚠️ Deployment cancelled")

/-- Whether lines are all of those that were to be told, and a success, or the front of them and one
that says that the run was cancelled. -/
inductive IsWalk (all : List Line) : List Line → Outcome → Prop where
  /-- All are told. -/
  | whole : IsWalk all all .success
  /-- They are told up to a cancellation. -/
  | cut {front : List Line} (isFront : front <+: all) :
      IsWalk all (front ++ [cancelLine]) .indeterminate

section Walk

open Dialogue (Ensures)

variable {turns : List SessionTurn} {told : List Line}

/-- A cancelled run has told the front of its lines. -/
theorem ensures_cancelled (entries : entriesOf turns = told) (later : List Line) :
    Ensures (fun now outcome => IsWalk (told ++ later) (entriesOf now) outcome) turns
      cancelled := by
  intro _
  have lines : entriesOf (turns ++ [⟨.tell DeployFault.cancelled.level
      DeployFault.cancelled.line, ()⟩]) = told ++ [cancelLine] := by
    rw [entriesOf_append, entries]
    rfl
  change IsWalk _ _ _
  rw [lines]
  exact .cut (List.prefix_append _ _)

/-- A session that tells lines goes on from where they have been told. -/
theorem ensures_tellAll {after : List SessionTurn → Outcome → Prop} {rest : Session Outcome}
    {lines : List Line} (entries : entriesOf turns = told)
    (later : ∀ now, entriesOf now = told ++ lines → Ensures after now rest) :
    Ensures after turns (tellAll lines rest) := by
  induction lines generalizing turns told with
  | nil => exact later turns (by rw [entries, List.append_nil])
  | cons line lines ih =>
    intro _
    have first : entriesOf (turns ++ [⟨.tell line.1 line.2, ()⟩]) = told ++ [line] := by
      rw [entriesOf_append, entries]
      rfl
    refine ih first fun now told => later now ?_
    rw [told, List.append_assoc, List.singleton_append]

/-- A pace tells its groups one after the other, up to the pause that is cut short. -/
theorem ensures_paced (entries : entriesOf turns = told) (later : List (List Line)) :
    Ensures (fun now outcome => IsWalk (told ++ later.flatten) (entriesOf now) outcome) turns
      (paced later (.done .success)) := by
  induction later generalizing turns told with
  | nil =>
    change IsWalk (told ++ []) (entriesOf turns) .success
    rw [entries, List.append_nil]
    exact .whole
  | cons lines later ih =>
    intro isCut
    have paused : entriesOf (turns ++ [⟨.pause stepLength, isCut⟩]) = told := by
      rw [entriesOf_append, entries]
      exact List.append_nil told
    cases isCut with
    | true => exact ensures_cancelled paused _
    | false =>
      refine ensures_tellAll paused fun now told => ?_
      rw [List.flatten_cons, ← List.append_assoc]
      exact ih told

/-- The groups of a run hold its lines in order. -/
theorem cons_flatten_groups (jobs : List String) :
    firstLine :: (groups jobs).flatten = walkLines jobs := by
  have ones (lines : List Line) : (lines.map ([·])).flatten = lines := by
    rw [← List.flatMap_def]
    exact List.flatMap_singleton' lines
  simp only [groups, walkLines, List.flatten_cons, List.flatten_append, ones, List.flatten_nil,
    List.append_nil, List.append_assoc]

/-- A simulated run walks through its jobs, unless it is cancelled on the way. -/
theorem ensures_session (jobs : List String) :
    Ensures (fun now outcome => IsWalk (walkLines jobs) (entriesOf now) outcome) []
      (session jobs) := by
  rw [session_eq_paced, ← cons_flatten_groups]
  intro _
  have first : entriesOf ([] ++ [⟨.tell firstLine.1 firstLine.2, ()⟩]) = [firstLine] := rfl
  exact ensures_paced first (groups jobs)

end Walk

/-! ## A whole rehearsal -/

/-- A simulated run that is cancelled at a moment, if at all. -/
def simulated (jobs : List String) (cancelAt : Option Nat) (listener : Listener) : Task :=
  .new (.walk (session jobs)) 0 (cancelAt == some 0) (cancelAt.filter (0 < ·)) listener

/-- A simulated run that has told its first line. -/
def begun (jobs : List String) (cancelAt : Option Nat) (listener : Listener) : Task :=
  { simulated jobs cancelAt listener with
    cancelAt := cancelAt.filter (0 < ·)
    log := listener.log.push (0, firstLine) }

/-- A run begins with its first line. -/
theorem arrives_begun_run (jobs : List String) (cancelAt : Option Nat) (listener : Listener)
    (script : Script) :
    Arrives 1 (.new script, simulated jobs cancelAt listener)
      (perform (ending (paced (groups jobs) (.done .success))) (.new script)
        (begun jobs cancelAt listener)) := by
  have begins := arrives_begun (show (simulated jobs cancelAt listener).phase = .unbegun 0 from rfl)
    (Nat.zero_le (Scene.new script).now)
  have starts : start (.new script) (simulated jobs cancelAt listener) =
      perform (ending (session jobs)) (.new script)
        { simulated jobs cancelAt listener with
          cancelAt := (cancelAt.filter (0 < ·)).map (0 + ·) } := rfl
  have same : (cancelAt.filter (0 < ·)).map (0 + ·) = cancelAt.filter (0 < ·) := by simp
  rw [starts, session_eq_paced, same] at begins
  exact begins

/-- The entries of a run up to a moment: the first one in any case, and those before the moment. -/
def entriesBefore (jobs : List String) (moment : Nat) : List Note :=
  (timeline jobs).filter fun note => decide (note.1 = 0 ∨ note.1 < moment)

/-- Whether a rehearsal of one run is over at a moment, with a report of these entries and that
outcome that names no run, and without a call. -/
structure Reports (script : Script) (elapsed : Nat) (entries : List Note) (outcome : Outcome)
    (result : Scene × List Task) : Prop where
  /-- Nothing but the time has changed around the run. -/
  scene : result.1 = { Scene.new script with now := elapsed }
  /-- The run is over. -/
  task : ∃ task, result.2 = [task] ∧ task.phase = .over (.session outcome) ∧
    task.log.entries = entries ∧ task.run = none

section Whole

variable {jobs : List String} {listener : Listener} {script : Script} {fuel : Nat}

/-- A run that has told its first line and then ends is reported when it is given enough time. -/
theorem reports_of_ends {cancelAt : Option Nat} {steps elapsed : Nat} {notes : List Note}
    {outcome : Outcome} {result : Scene × Task}
    (ends : EndsAt (.new script) (begun jobs cancelAt listener) elapsed notes outcome result)
    (arrives : Arrives steps (perform (ending (paced (groups jobs) (.done .success)))
      (.new script) (begun jobs cancelAt listener)) result)
    (enough : 1 + steps ≤ fuel) :
    Reports script elapsed ((0, firstLine) :: notes) outcome
      (playAll fuel (.new script) [simulated jobs cancelAt listener]) := by
  obtain ⟨more, rfl⟩ := Nat.exists_eq_add_of_le enough
  have whole := (arrives_begun_run jobs cancelAt listener script).trans arrives
  have played := (whole more).trans (playAll_over ends.phase)
  have first : (begun jobs cancelAt listener).log.entries = [(0, firstLine)] := by
    cases listener <;> rfl
  rw [played]
  refine ⟨ends.scene, result.2, rfl, ends.phase, ?_, ends.run⟩
  rw [ends.entries, first, List.singleton_append]

/-- A run that is not cancelled before it begins is not cancelled when it has. -/
theorem calm_begun {cancelAt : Option Nat} (later : ∀ moment ∈ cancelAt, 0 < moment) :
    (begun jobs cancelAt listener).isCancelled (.new script) = false := by
  cases cancelAt with
  | none => rfl
  | some moment =>
    have after : 0 < moment := later moment rfl
    have differ : moment ≠ 0 := by omega
    simp [Task.isCancelled, Scene.new, begun, simulated, Task.new, differ]

/-- A run that is not cancelled before its last line has all its entries, and succeeds. -/
theorem reports_whole {cancelAt : Option Nat} (enough : 8 * jobs.length + 6 ≤ fuel)
    (late : ∀ moment ∈ cancelAt, stepLength * (4 * jobs.length + 2) < moment) :
    Reports script (stepLength * (4 * jobs.length + 2)) (timeline jobs) .success
      (playAll fuel (.new script) [simulated jobs cancelAt listener]) := by
  have calm : (begun jobs cancelAt listener).isCancelled (.new script) = false :=
    calm_begun fun moment cancels => Nat.zero_lt_of_lt (late moment cancels)
  have free : ∀ moment ∈ (begun jobs cancelAt listener).cancelAt,
      (Scene.new script).now + stepLength * (groups jobs).length < moment := by
    intro moment cancels
    rw [length_groups]
    have above := late moment (Option.mem_filter_iff.mp cancels).1
    change 0 + _ < _
    omega
  obtain ⟨result, ends, arrives⟩ := arrives_whole (groups jobs) calm rfl free
  rw [length_groups] at arrives
  have length := length_groups jobs
  rw [timeline_eq, ← length, ← Nat.zero_add (stepLength * _)]
  exact reports_of_ends ends arrives (by omega)

/-- Up to its beginning a run has its first entry. -/
theorem entriesBefore_zero (jobs : List String) :
    entriesBefore jobs 0 = [(0, firstLine)] := by
  have later : ∀ note ∈ notesFrom 0 (groups jobs), ¬(note.1 = 0 ∨ note.1 < 0) := by
    intro note member
    have bound := (moment_of_mem_notesFrom member).1
    simp only [stepLength] at bound
    omega
  rw [entriesBefore, timeline_eq, List.filter_cons_of_pos (by decide),
    List.filter_eq_nil_iff.mpr (by simpa using later)]

/-- The entries of a run up to a moment between two pauses are those of the pauses before it. -/
theorem entriesBefore_eq {moment : Nat} (between : ¬ stepLength ∣ moment) (jobs : List String) :
    entriesBefore jobs moment =
      (0, firstLine) :: notesFrom 0 ((groups jobs).take (moment / stepLength)) := by
  have same : (notesFrom 0 (groups jobs)).filter
        (fun note => decide (note.1 = 0 ∨ note.1 < moment)) =
      (notesFrom 0 (groups jobs)).filter fun note => decide (note.1 < moment) := by
    refine List.filter_congr fun note member => ?_
    have bound := (moment_of_mem_notesFrom member).1
    have waits : note.1 ≠ 0 := by
      simp only [stepLength] at bound
      omega
    simp only [waits, false_or]
  rw [entriesBefore, timeline_eq, List.filter_cons_of_pos (by simp), same,
    filter_notesFrom between]

/-- All entries of a run are those up to a moment after the last one. -/
theorem entriesBefore_eq_timeline {moment : Nat}
    (late : stepLength * (4 * jobs.length + 2) < moment) :
    entriesBefore jobs moment = timeline jobs := by
  refine List.filter_eq_self.mpr fun note member => decide_eq_true ?_
  rw [timeline_eq] at member
  rcases List.mem_cons.mp member with rfl | told
  · exact .inl rfl
  · have bound := (moment_of_mem_notesFrom told).2
    rw [length_groups] at bound
    omega

/-- The last entry of a whole run is one of those up to a moment if it comes before it. -/
theorem closingNote_mem_iff {moment : Nat} :
    closingNote jobs ∈ entriesBefore jobs moment ↔
      stepLength * (4 * jobs.length + 2) < moment := by
  have listed : closingNote jobs ∈ timeline jobs := by simp [timeline]
  have waits : (closingNote jobs).1 ≠ 0 := by
    simp only [closingNote, stepLength]
    omega
  rw [entriesBefore, List.mem_filter, decide_eq_true_eq]
  simp only [listed, waits, true_and, false_or]
  rfl

/-- A run that is cancelled has the entries up to its cancellation and one that says so, unless it
is over by then. -/
theorem reports_cut (enough : 8 * jobs.length + 6 ≤ fuel) {moment : Nat}
    (between : moment = 0 ∨ ¬ stepLength ∣ moment)
    (early : ¬ stepLength * (4 * jobs.length + 2) < moment) :
    Reports script moment (entriesBefore jobs moment ++ [cancelNote moment]) .indeterminate
      (playAll fuel (.new script) [simulated jobs (some moment) listener]) := by
  rcases between with rfl | between
  · -- It is cancelled before it begins, so its first pause is over at once.
    have ends : EndsAt (.new script) (begun jobs (some 0) listener) 0 [cancelNote 0]
        .indeterminate (perform (ending (paced (groups jobs) (.done .success))) (.new script)
          (begun jobs (some 0) listener)) := endsAt_cancelled rfl
    rw [entriesBefore_zero]
    exact reports_of_ends ends (.refl _) (by omega)
  · have after : 0 < moment := Nat.pos_of_ne_zero fun none => between (none ▸ Nat.dvd_zero _)
    have apart := between_pauses between
    have reached : moment / stepLength < (groups jobs).length := by
      rw [length_groups]
      simp only [stepLength] at between early ⊢
      omega
    have taken : ((groups jobs).take (moment / stepLength)).length = moment / stepLength :=
      List.length_take_of_le (Nat.le_of_lt reached)
    have cancels : (begun jobs (some moment) listener).cancelAt = some moment := by
      simp [begun, after]
    have calm : (begun jobs (some moment) listener).isCancelled (.new script) = false :=
      calm_begun (by simpa using after)
    have left : (groups jobs).drop (moment / stepLength) ≠ [] := by
      simpa using reached
    obtain ⟨result, ends, arrives⟩ := arrives_part calm rfl cancels
      (by rw [taken]; simpa [Scene.new] using apart.1)
      (by rw [taken]; simpa [Scene.new] using apart.2) left
    rw [List.take_append_drop, taken] at arrives
    rw [entriesBefore_eq between]
    rw [length_groups] at reached
    exact reports_of_ends ends arrives (by omega)

end Whole

/-- The entries about a job in a whole run. -/
theorem stageNotes_subset_timeline {jobs : List String} {i : Nat} {job : String}
    (named : jobs[i]? = some job) :
    ∀ note ∈ stageNotes (stepLength * (4 * i + 2)) job, note ∈ timeline jobs := by
  intro note member
  have among : (job, i) ∈ jobs.zipIdx := List.mem_zipIdx_iff_getElem?.mpr named
  refine List.mem_append_left _ (List.mem_append_right _ ?_)
  exact List.mem_flatMap.mpr ⟨(job, i), among, member⟩

/-- A job whose last entry is among those up to a moment has all its entries there. -/
theorem stageNotes_subset_entriesBefore {jobs : List String} {moment i : Nat} {job : String}
    (named : jobs[i]? = some job) {completed : Note}
    (isLast : completed ∈ (stageNotes (stepLength * (4 * i + 2)) job).getLast?)
    (among : completed ∈ entriesBefore jobs moment) :
    ∀ note ∈ stageNotes (stepLength * (4 * i + 2)) job, note ∈ entriesBefore jobs moment := by
  intro note member
  have ends : completed.1 = stepLength * (4 * i + 2) + 3 * stepLength :=
    congrArg Prod.fst (Option.some.inj isLast).symm
  have early := of_decide_eq_true (List.mem_filter.mp among).2
  have before : note.1 ≤ stepLength * (4 * i + 2) + 3 * stepLength := by
    obtain ⟨⟨line, k⟩, listed, rfl⟩ := List.mem_map.mp member
    have few : k < 4 := List.snd_lt_of_mem_zipIdx listed
    simp only [stepLength]
    omega
  refine List.mem_filter.mpr ⟨stageNotes_subset_timeline named note member, decide_eq_true ?_⟩
  simp only [stepLength] at ends before
  omega

/-- A simulated run that is not cancelled has all its entries, each after a pause but the first one
and the warning that there is nothing to run, and succeeds. One that is cancelled, before it begins
or between two of its pauses, has those entries that come before that, and then one that says so; if
the last entry comes before that it is over, and a success. A job has its last entry only with all
its others. -/
theorem simulation_truncates (jobs : List String) (listener : Listener) (script : Script)
    {fuel : Nat} (enough : 8 * jobs.length + 6 ≤ fuel) {moment : Nat}
    (timely : moment = 0 ∨ ¬ stepLength ∣ moment) :
    let closed := closingNote jobs ∈ entriesBefore jobs moment
    let entries := entriesBefore jobs moment ++ if closed then [] else [cancelNote moment]
    (∀ (σ : Type) (partner : σ → (act : Act) → act.Answer × σ),
      (∀ state milliseconds, (partner state (.pause milliseconds)).1 = false) →
        ∀ state, (session jobs).history partner state = (timeline jobs).flatMap turnsOf) ∧
    Reports script (closingNote jobs).1 (timeline jobs) .success
      (playAll fuel (.new script) [simulated jobs none listener]) ∧
    Reports script (if closed then (closingNote jobs).1 else moment) entries
      (if closed then .success else .indeterminate)
      (playAll fuel (.new script) [simulated jobs (some moment) listener]) ∧
    ∀ i job, jobs[i]? = some job →
      let notes := stageNotes (stepLength * (4 * i + 2)) job
      (∀ completed ∈ notes.getLast?, completed ∈ entries → ∀ note ∈ notes, note ∈ entries) := by
  refine ⟨fun σ partner calm state => history_session calm jobs state,
    reports_whole enough nofun, ?_, ?_⟩
  · by_cases closed : closingNote jobs ∈ entriesBefore jobs moment
    · have late := closingNote_mem_iff.mp closed
      have whole : Reports script _ (timeline jobs) .success
          (playAll fuel (.new script) [simulated jobs (some moment) listener]) :=
        reports_whole enough (by simpa using late)
      rw [if_pos closed, if_pos closed, if_pos closed, List.append_nil,
        entriesBefore_eq_timeline late]
      exact whole
    · have early := mt closingNote_mem_iff.mpr closed
      rw [if_neg closed, if_neg closed, if_neg closed]
      exact reports_cut enough timely early
  · intro i job named notes completed isLast among note member
    refine List.mem_append_left _ ?_
    refine stageNotes_subset_entriesBefore named isLast ?_ note member
    rcases List.mem_append.mp among with before | last
    · exact before
    · -- What says that the run was cancelled is no entry about a job.
      obtain rfl := Option.some.inj isLast
      split at last
      · cases last
      · cases List.mem_singleton.mp last

/-- A run of one job that is cancelled between its third pause and its fourth one. -/
theorem simulation_truncated_midway :
    (1050 = 0 ∨ ¬ stepLength ∣ 1050) ∧
    Reports [] 1050
      [(0, .info, "Initializing pipeline..."),
        (300, .info, "Running in simulation mode (no repository connected)"),
        (600, .info, "[build] Started"), (900, .info, "[build] Processing..."),
        (1050, .warning, "⚠️ Deployment cancelled")]
      .indeterminate (rehearse [] [simulated ["build"] (some 1050) .live]) := by
  have timely : 1050 = 0 ∨ ¬ stepLength ∣ 1050 := by decide
  have enough : 8 * ["build"].length + 6 ≤ patience := by decide
  obtain ⟨-, -, reports, -⟩ := simulation_truncates ["build"] .live [] enough timely
  have before : entriesBefore ["build"] 1050 =
      [(0, .info, "Initializing pipeline..."),
        (300, .info, "Running in simulation mode (no repository connected)"),
        (600, .info, "[build] Started"), (900, .info, "[build] Processing...")] := by
    decide
  have early : closingNote ["build"] ∉ entriesBefore ["build"] 1050 :=
    mt closingNote_mem_iff.mp (by decide)
  rw [if_neg early, if_neg early, if_neg early, before] at reports
  exact ⟨timely, reports⟩

end Pipewright.Simulation
