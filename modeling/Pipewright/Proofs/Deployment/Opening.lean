import Pipewright.Proofs.Deployment.History

/-!
# Before the run is looked at

The stages of a session before it looks at the run ask for no runs, jobs or logs and follow no run.
A session that stops there has done nothing else (`AreEarly`), and one that comes through has also
waited exactly as long as the service is given to notice the document (`IsOpening`). Time is that
of pauses here, as it is where calls take none.
-/
namespace Pipewright

open Procedure Deployment

/-! ## Time -/

/-- How many milliseconds an act takes where calls and logs take none. -/
def Act.duration : Act → Nat
  | pause milliseconds => milliseconds
  | _ => 0

/-- How many milliseconds turns take. -/
def elapsed : List SessionTurn → Nat
  | [] => 0
  | turn :: later => turn.1.duration + elapsed later

/-- Turns after turns take the time of both. -/
@[simp]
theorem elapsed_append (past later : List SessionTurn) :
    elapsed (past ++ later) = elapsed past + elapsed later := by
  induction past with
  | nil => exact (Nat.zero_add _).symm
  | cons turn past ih => rw [List.cons_append, elapsed, elapsed, ih, Nat.add_assoc]

/-! ## Early acts -/

/-- Whether a stage comes before the run is looked at. -/
def Stage.isEarly : Stage → Bool
  | pollingRun => false
  | collectingResults => false
  | _ => true

/-- Whether an act may come before the run is looked at. -/
def Act.isEarly : Act → Bool
  | enter stage => stage.isEarly
  | call _ c => c.stage.isEarly
  | follow _ _ => false
  | download _ _ => false
  | _ => true

/-- Whether turns are such as come before the run is looked at. -/
def AreEarly (turns : List SessionTurn) : Prop := ∀ turn ∈ turns, turn.1.isEarly = true

/-- Early turns and one more are early. -/
theorem AreEarly.append_one {past : List SessionTurn} (early : AreEarly past) (turn : SessionTurn)
    (isEarly : turn.1.isEarly = true) : AreEarly (past ++ [turn]) := by
  intro other member
  rcases List.mem_append.mp member with before | last
  · exact early other before
  · rw [List.mem_singleton.mp last]
    exact isEarly

/-- What early acts do not show is not shown by early turns. -/
theorem AreEarly.filterMap_eq_nil {α : Type} {view : SessionTurn → Option α}
    {past : List SessionTurn} (early : AreEarly past)
    (blind : ∀ turn, turn.1.isEarly = true → view turn = none) : past.filterMap view = [] :=
  List.filterMap_eq_nil_iff.mpr fun turn member => blind turn (early turn member)

/-- A session that may go on to look at the run, and has waited so long. -/
structure IsOpening (waited : Nat) (past : List SessionTurn) : Prop where
  /-- It has not begun to. -/
  early : AreEarly past
  /-- It has waited. -/
  elapsed_eq : elapsed past = waited

namespace IsOpening

variable {waited : Nat} {past : List SessionTurn} (opening : IsOpening waited past)

include opening

/-- One turn more takes its time. -/
theorem append_one (turn : SessionTurn) (isEarly : turn.1.isEarly = true) :
    IsOpening (waited + turn.1.duration) (past ++ [turn]) where
  early := opening.early.append_one turn isEarly
  elapsed_eq := by
    rw [elapsed_append, opening.elapsed_eq]
    rfl

/-- A stage is entered. -/
theorem enter (stage : Stage) (isEarly : stage.isEarly = true := by rfl) :
    IsOpening waited (past ++ [⟨.enter stage, false⟩]) :=
  opening.append_one ⟨.enter stage, false⟩ isEarly

/-- An entry is made. -/
theorem tell (level : Level) (message : String) :
    IsOpening waited (past ++ [⟨.tell level message, ()⟩]) :=
  opening.append_one ⟨.tell level message, ()⟩ rfl

/-- A call is answered. -/
theorem call (credentials : Credentials) (c : Call) (result : c.Result)
    (isEarly : c.stage.isEarly = true := by rfl) :
    IsOpening waited (past ++ [⟨.call credentials c, result⟩]) :=
  opening.append_one ⟨.call credentials c, result⟩ isEarly

/-- A call that fails leaves early turns. -/
theorem fails (credentials : Credentials) (c : Call) (isEarly : c.stage.isEarly = true := by rfl) :
    ∀ fault, AreEarly (past ++ [⟨.call credentials c, .error fault⟩]) :=
  fun fault => (opening.call credentials c (.error fault) isEarly).early

end IsOpening

/-! ## Stages -/

section Stages

variable {s : Settings} {token repo workflow : String} {credentials : Credentials}
  {target : Target} {waited : Nat} {past : List SessionTurn}

/-- Checking what was given is early. -/
theorem validate_opens (opening : IsOpening waited past) :
    (validate token repo workflow).Ensures (fun _ now => AreEarly now)
      (fun credentials now => Credentials.check token repo = .ok credentials ∧
        IsOpening waited now) past := by
  have entered := opening.enter .validatingCredentials
  rw [validate, ensures_bind, ensures_enter]
  refine ⟨opening.early.append_one _ rfl, ?_⟩
  cases checked : Credentials.check token repo with
  | error fault => exact ensures_stop.mpr entered.early
  | ok credentials =>
    simp only [ensures_bind, ensures_ite, ensures_stop, ensures_pure, true_and]
    exact ⟨fun _ => entered.early, fun _ => entered⟩

/-- Looking up the default branch is early. -/
theorem findTarget_opens (opening : IsOpening waited past) :
    (findTarget credentials).Ensures (fun _ now => AreEarly now)
      (fun target now => target.credentials = credentials ∧ IsOpening waited now) past := by
  have asking := (opening.enter .fetchingRepoMetadata).tell .info
    "Fetching repository information..."
  simp only [findTarget, ensures_bind, ensures_enter, ensures_info, ensures_call, ensures_pure,
    true_and]
  exact ⟨opening.early.append_one _ rfl, asking.fails credentials .repository,
    fun repository => (asking.call credentials .repository (.ok repository)).tell .info _⟩

/-- Looking up the head of the branch is early. -/
theorem findBase_opens (opening : IsOpening waited past) :
    (findBase target).Ensures (fun _ now => AreEarly now)
      (fun _ now => IsOpening waited now) past := by
  have asking := (opening.enter .resolvingCommitBase).tell .info
    "Getting latest commit information..."
  simp only [findBase, ensures_bind, ensures_enter, ensures_info, ensures_call, ensures_pure]
  refine ⟨opening.early.append_one _ rfl, asking.fails _ (.branch target.branch), fun branch => ?_⟩
  have found := (asking.call target.credentials (.branch target.branch) (.ok branch)).tell .info
    ("Latest commit SHA: " ++ shortHash branch.commit.sha)
  exact ⟨found.fails _ (.tree branch.commit.sha),
    fun tree => found.call _ (.tree branch.commit.sha) (.ok tree)⟩

/-- Committing the document is early. -/
theorem publish_opens {base : CommitBase} (opening : IsOpening waited past) :
    (publish s target base workflow).Ensures (fun _ now => AreEarly now)
      (fun _ now => IsOpening waited now) past := by
  have blobbing := (opening.enter .publishingWorkflow).tell .info "Creating workflow file..."
  simp only [publish, ensures_bind, ensures_enter, ensures_info, ensures_success, ensures_call,
    ensures_callOr]
  refine ⟨opening.early.append_one _ rfl, blobbing.fails _ (.createBlob workflow),
    fun blob => ?_⟩
  have treeing := (blobbing.call target.credentials (.createBlob workflow) (.ok blob)).tell .info
    "Setting up directory structure..."
  refine ⟨treeing.fails _ (.createTree base.tree s.workflowPath blob.sha), fun tree => ?_⟩
  have committing := (treeing.call target.credentials
    (.createTree base.tree s.workflowPath blob.sha) (.ok tree)).tell .info
    "Committing workflow file to repository..."
  refine ⟨committing.fails _ (.createCommit s.commitMessage tree.sha base.commit),
    fun commit => ?_⟩
  have moving := (committing.call target.credentials
    (.createCommit s.commitMessage tree.sha base.commit) (.ok commit)).tell .info
    ("Updating " ++ target.branch ++ " branch reference...")
  exact ⟨moving.fails _ (.updateRef target.branch commit.sha), fun reply =>
    (moving.call _ (.updateRef target.branch commit.sha) (.ok reply)).tell .success _⟩

/-- Looking for the workflow is early, and takes as long as the service is given. -/
theorem findWorkflow_opens (opening : IsOpening 0 past) :
    (findWorkflow s target).Ensures (fun _ now => AreEarly now)
      (fun _ now => IsOpening s.registrationDelay now) past := by
  have waiting := (opening.enter .awaitingRegistration).tell .info
    "Waiting for GitHub to register the workflow..."
  have paused := waiting.append_one ⟨.pause s.registrationDelay, false⟩ rfl
  rw [Nat.zero_add] at paused
  have asking := paused.tell .info "Fetching workflow information..."
  simp only [findWorkflow, ensures_bind, ensures_enter, ensures_info, ensures_pause, ensures_call]
  refine ⟨opening.early.append_one _ rfl, waiting.early.append_one _ rfl,
    asking.fails _ .workflows, fun workflows => ?_⟩
  have listed := asking.call target.credentials .workflows (.ok workflows)
  cases workflows.find? fun w => w.path == s.workflowPath with
  | none => exact ensures_stop.mpr listed.early
  | some registered => exact ensures_pure.mpr listed

/-- Starting the workflow is early, and told last. -/
theorem trigger_opens {registered : RemoteWorkflow} (opening : IsOpening waited past) :
    (trigger target registered).Ensures (fun _ now => AreEarly now)
      (fun _ now => IsOpening waited now ∧
        (entriesOf now).getLast? = some (.success, "✅ Workflow triggered successfully")) past := by
  have asking := (opening.enter .triggeringRun).tell .info
    ("Triggering workflow run for \"" ++ registered.name ++ "\"...")
  simp only [trigger, ensures_bind, ensures_enter, ensures_info, ensures_success, ensures_call]
  refine ⟨opening.early.append_one _ rfl, asking.fails _ (.dispatch registered.id target.branch),
    fun reply => ⟨?_, ?_⟩⟩
  · exact (asking.call _ (.dispatch registered.id target.branch) (.ok reply)).tell .success _
  · rw [entriesOf_append]
    exact List.getLast?_concat

end Stages

/-- The steps of a session ensure what every early fault does, and what looking at the run and going
on from there ensures of every opening. -/
theorem steps_ensures {s : Settings} {token repo workflow : String}
    {failed : DeployFault → List SessionTurn → Prop} {good : Outcome → List SessionTurn → Prop}
    (stops : ∀ fault now, AreEarly now → failed fault now)
    (goesOn : ∀ past target registered, Credentials.check token repo = .ok target.credentials →
      IsOpening s.registrationDelay past →
      (entriesOf past).getLast? = some (.success, "✅ Workflow triggered successfully") →
      (awaitRun s target registered >>= conclude s target).Ensures failed good past) :
    (steps s token repo workflow).Ensures failed good [] := by
  have start : IsOpening 0 [] := ⟨fun _ member => (List.not_mem_nil member).elim, rfl⟩
  rw [steps, ensures_bind, ensures_info, ensures_bind]
  refine (validate_opens (start.tell .info _)).imp stops ?_
  rintro credentials _ ⟨checked, opening⟩
  rw [ensures_bind]
  refine (findTarget_opens opening).imp stops ?_
  rintro target _ ⟨rfl, opening⟩
  rw [ensures_bind]
  refine (findBase_opens opening).imp stops fun base _ opening => ?_
  rw [ensures_bind]
  refine (publish_opens opening).imp stops fun _ _ opening => ?_
  rw [ensures_bind]
  refine (findWorkflow_opens opening).imp stops fun registered _ opening => ?_
  rw [ensures_bind]
  refine (trigger_opens opening).imp stops ?_
  rintro _ now ⟨opening, told⟩
  exact goesOn now target registered checked opening told

end Pipewright
