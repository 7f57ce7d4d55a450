import Pipewright.Proofs.Deployment.Calls

/-!
# The stages of a session

Each stage of a session either stops it, with its calls in order and an outcome that they account
for, or hands the next stage a session in which every call so far succeeded, with what the coming
calls are about. The looks at the run are an induction on the attempts that are left.
-/
namespace Pipewright

open Procedure Deployment

variable {s : Settings} {token repo workflow : String} {credentials : Credentials}
  {past : List SessionTurn}

/-- The calls of a session that stopped before the jobs were listed, with its outcome: one of them
failed, or the session was cancelled or found too little. -/
inductive Stopped (s : Settings) (token repo workflow : String) :
    Outcome → List CallRecord → Prop where
  /-- All calls succeeded. -/
  | halted {credentials : Credentials} {names : List String} {calls : List CallRecord}
      (standing : Standing s token repo workflow credentials names calls) :
      Stopped s token repo workflow .indeterminate calls
  /-- The last call failed. -/
  | faulted {credentials : Credentials} {names : List String} {calls : List CallRecord} {c : Call}
      (standing : Standing s token repo workflow credentials names calls)
      (unlogged : CallRecord.job? ⟨credentials, c, none⟩ = none)
      (scheduled : IsScheduled s.maxPollAttempts (names ++ [c.endpoint]))
      (threaded : IsThreaded s workflow calls c) (fault : RemoteFault) :
      Stopped s token repo workflow .failure
        (calls ++ [⟨credentials, c, some (.error fault)⟩])

/-- Calls up to the one that stops a session are orderly. -/
theorem Stopped.orderly {outcome : Outcome} {calls : List CallRecord}
    (stopped : Stopped s token repo workflow outcome calls) :
    IsOrderly s token repo workflow calls := by
  cases stopped with
  | halted standing => exact standing.orderly
  | faulted standing unlogged scheduled threaded fault =>
    exact standing.orderly_call unlogged scheduled threaded _

/-- The outcome and the calls of a session that a fault stops while it is under way. -/
def Stops (s : Settings) (token repo workflow : String) (fault : DeployFault)
    (now : List SessionTurn) : Prop :=
  Stopped s token repo workflow fault.outcome (callsOf now)

/-- A call that fails makes a session fail. -/
theorem outcome_ofRemote (fault : RemoteFault) :
    (DeployFault.ofRemote fault).outcome = .failure := by
  cases fault <;> rfl

/-- A branch that cannot be moved makes a session fail. -/
theorem outcome_ofRefUpdate (branch : String) (fault : RemoteFault) :
    (DeployFault.ofRefUpdate branch fault).outcome = .failure := by
  cases fault <;> rfl

/-- A session fails with the next of the opening calls, or is under way with one call more. -/
theorem Standing.opening {calls : List CallRecord} {n : Nat}
    (standing : Standing s token repo workflow credentials (openingCalls.take n) calls) (c : Call)
    (next : openingCalls[n]? = some c.endpoint) (threaded : IsThreaded s workflow calls c) :
    (∀ fault, Stopped s token repo workflow .failure
      (calls ++ [⟨credentials, c, some (.error fault)⟩])) ∧
    ∀ reply, Standing s token repo workflow credentials (openingCalls.take (n + 1))
      (calls ++ [⟨credentials, c, some (.ok reply)⟩]) := by
  have names : openingCalls.take n ++ [c.endpoint] = openingCalls.take (n + 1) := by
    rw [List.take_add_one, next]
    rfl
  have scheduled : IsScheduled s.maxPollAttempts (openingCalls.take n ++ [c.endpoint]) :=
    names ▸ isScheduled_opening _ (n + 1)
  have opening : c.endpoint ∈ openingCalls := List.mem_of_getElem? next
  have unlogged : CallRecord.job? ⟨credentials, c, none⟩ = none := by
    cases c with
    | jobLog job => simp [openingCalls, Call.endpoint] at opening
    | _ => rfl
  have unlisted : c.endpoint ≠ "list_run_jobs" := by
    intro lists
    rw [lists] at opening
    exact absurd opening (by decide)
  exact ⟨.faulted standing unlogged scheduled threaded,
    fun reply => names ▸ standing.call unlogged unlisted scheduled threaded reply⟩

/-- Looking up the default branch is the first call. -/
theorem findTarget_calls
    (standing : Standing s token repo workflow credentials (openingCalls.take 0) (callsOf past)) :
    (findTarget credentials).Ensures (Stops s token repo workflow)
      (fun target now => target.credentials = credentials ∧
        Standing s token repo workflow credentials (openingCalls.take 1) (callsOf now) ∧
        IsDefaultBranch (callsOf now) target.branch) past := by
  simp only [findTarget, ensures_bind, ensures_enter, ensures_info, ensures_call, ensures_pure,
    Stops, outcome_ofRemote, callsOf_enter, callsOf_tell, callsOf_call, true_and]
  have asked := standing.opening .repository rfl trivial
  refine ⟨.halted standing, asked.1, fun repository => ⟨asked.2 repository, ?_⟩⟩
  exact ⟨repository, answered_last _ _ _, rfl⟩

/-- Looking up the head and its tree are the next two calls. -/
theorem findBase_calls {target : Target}
    (standing : Standing s token repo workflow target.credentials (openingCalls.take 1)
      (callsOf past))
    (branch : IsDefaultBranch (callsOf past) target.branch) :
    (findBase target).Ensures (Stops s token repo workflow)
      (fun base now =>
        Standing s token repo workflow target.credentials (openingCalls.take 3) (callsOf now) ∧
        IsDefaultBranch (callsOf now) target.branch ∧ IsHead (callsOf now) base.commit ∧
        IsBaseTree (callsOf now) base.tree) past := by
  simp only [findBase, ensures_bind, ensures_enter, ensures_info, ensures_call, ensures_pure,
    Stops, outcome_ofRemote, callsOf_enter, callsOf_tell, callsOf_call]
  have asked := standing.opening (.branch target.branch) rfl branch
  refine ⟨.halted standing, asked.1, fun head => ?_⟩
  have isHead : IsHead (callsOf past ++
      [⟨target.credentials, .branch target.branch, some (.ok head)⟩]) head.commit.sha :=
    ⟨target.branch, head, answered_last _ _ _, rfl⟩
  have treed := (asked.2 head).opening (.tree head.commit.sha) rfl isHead
  refine ⟨treed.1, fun tree =>
    ⟨treed.2 tree, (branch.append _).append _, isHead.append _, ?_⟩⟩
  exact ⟨head.commit.sha, tree, answered_last _ _ _, rfl⟩

/-- Committing the document makes four calls: each new object is made of the ones before it, and
the branch is moved to the new commit. -/
theorem publish_calls {target : Target} {base : CommitBase}
    (standing : Standing s token repo workflow target.credentials (openingCalls.take 3)
      (callsOf past))
    (branch : IsDefaultBranch (callsOf past) target.branch)
    (head : IsHead (callsOf past) base.commit) (tree : IsBaseTree (callsOf past) base.tree) :
    (publish s target base workflow).Ensures (Stops s token repo workflow)
      (fun _ now =>
        Standing s token repo workflow target.credentials (openingCalls.take 7) (callsOf now) ∧
        IsDefaultBranch (callsOf now) target.branch) past := by
  simp only [publish, ensures_bind, ensures_enter, ensures_info, ensures_success, ensures_call,
    ensures_callOr, Stops, outcome_ofRemote, outcome_ofRefUpdate,
    callsOf_enter, callsOf_tell, callsOf_call]
  have blobbed := standing.opening (.createBlob workflow) rfl rfl
  refine ⟨.halted standing, blobbed.1, fun blob => ?_⟩
  have treed := (blobbed.2 blob).opening (.createTree base.tree s.workflowPath blob.sha) rfl
    ⟨tree.append _, rfl, workflow, blob, answered_last _ _ _, rfl⟩
  refine ⟨treed.1, fun newTree => ?_⟩
  have committed := (treed.2 newTree).opening
    (.createCommit s.commitMessage newTree.sha base.commit) rfl
    ⟨rfl, ⟨_, _, _, newTree, answered_last _ _ _, rfl⟩, (head.append _).append _⟩
  refine ⟨committed.1, fun commit => ?_⟩
  have moved := (committed.2 commit).opening (.updateRef target.branch commit.sha) rfl
    ⟨((branch.append _).append _).append _, _, _, _, commit, answered_last _ _ _, rfl⟩
  exact ⟨moved.1, fun reply =>
    ⟨moved.2 reply, (((branch.append _).append _).append _).append _⟩⟩

/-- Looking for the workflow is the next call, and what is found is registered. -/
theorem findWorkflow_calls {target : Target}
    (standing : Standing s token repo workflow target.credentials (openingCalls.take 7)
      (callsOf past))
    (branch : IsDefaultBranch (callsOf past) target.branch) :
    (findWorkflow s target).Ensures (Stops s token repo workflow)
      (fun registered now =>
        Standing s token repo workflow target.credentials (openingCalls.take 8) (callsOf now) ∧
        IsDefaultBranch (callsOf now) target.branch ∧
        IsRegistered s (callsOf now) registered.id) past := by
  simp only [findWorkflow, ensures_bind, ensures_enter, ensures_info, ensures_pause, ensures_call,
    Stops, outcome_ofRemote, callsOf_enter, callsOf_tell, callsOf_pause, callsOf_call]
  have asked := standing.opening .workflows rfl trivial
  refine ⟨.halted standing, .halted standing, asked.1, fun workflows => ?_⟩
  cases found : workflows.find? fun w => w.path == s.workflowPath with
  | none =>
    simp only [ensures_stop, Stops, callsOf_call, callsOf_tell, callsOf_pause,
      callsOf_enter]
    exact .halted (asked.2 workflows)
  | some registered =>
    simp only [ensures_pure, callsOf_call, callsOf_tell, callsOf_pause, callsOf_enter]
    exact ⟨asked.2 workflows, branch.append _,
      workflows, registered, answered_last _ _ _, found, rfl⟩

/-- Starting the workflow is the last of the opening calls. -/
theorem trigger_calls {target : Target} {registered : RemoteWorkflow}
    (standing : Standing s token repo workflow target.credentials (openingCalls.take 8)
      (callsOf past))
    (branch : IsDefaultBranch (callsOf past) target.branch)
    (isRegistered : IsRegistered s (callsOf past) registered.id) :
    (trigger target registered).Ensures (Stops s token repo workflow)
      (fun _ now =>
        Standing s token repo workflow target.credentials openingCalls (callsOf now) ∧
        IsDefaultBranch (callsOf now) target.branch ∧
        IsRegistered s (callsOf now) registered.id) past := by
  simp only [trigger, ensures_bind, ensures_enter, ensures_info, ensures_success, ensures_call,
    Stops, outcome_ofRemote, callsOf_enter, callsOf_tell, callsOf_call]
  have started := standing.opening (.dispatch registered.id target.branch) rfl
    ⟨isRegistered, branch⟩
  exact ⟨.halted standing, started.1, fun reply =>
    ⟨started.2 reply, branch.append _, isRegistered.append _⟩⟩

/-! ## Looks at the run -/

/-- What holds of the calls when no more looks at the run are taken: there were not too many, and a
completed run is the one that the last of them showed so, and no other one did. -/
def HasLooked (s : Settings) (token repo workflow : String) (target : Target) (polled : Polled)
    (now : List SessionTurn) : Prop :=
  ∃ looks, looks ≤ s.maxPollAttempts ∧
    Standing s token repo workflow target.credentials
      (openingCalls ++ List.replicate looks "list_workflow_runs") (callsOf now) ∧
    ∀ run, polled = .completed run → 1 ≤ looks ∧ IsCompletedRun (callsOf now) run.id ∧
      ∀ other, SeesCompleted (callsOf now) other ↔ other = run

/-- A session fails with a look at the run, or it is under way with one look more. -/
theorem Standing.look {calls : List CallRecord} {looks : Nat} {id : UInt64} {branch : String}
    (standing : Standing s token repo workflow credentials
      (openingCalls ++ List.replicate looks "list_workflow_runs") calls)
    (few : looks < s.maxPollAttempts) (isRegistered : IsRegistered s calls id)
    (isBranch : IsDefaultBranch calls branch) :
    (∀ fault, Stopped s token repo workflow .failure
      (calls ++ [⟨credentials, .runs id branch, some (.error fault)⟩])) ∧
    ∀ runs, Standing s token repo workflow credentials
      (openingCalls ++ List.replicate (looks + 1) "list_workflow_runs")
      (calls ++ [⟨credentials, .runs id branch, some (.ok runs)⟩]) := by
  have names : openingCalls ++ List.replicate looks "list_workflow_runs" ++
      [(Call.runs id branch).endpoint] =
      openingCalls ++ List.replicate (looks + 1) "list_workflow_runs" := by
    rw [List.replicate_succ', List.append_assoc]
    rfl
  have scheduled : IsScheduled s.maxPollAttempts (openingCalls ++
      List.replicate looks "list_workflow_runs" ++ [(Call.runs id branch).endpoint]) :=
    names ▸ isScheduled_looks (Nat.succ_le_of_lt few)
  have unlisted : (Call.runs id branch).endpoint ≠ "list_run_jobs" := by simp [Call.endpoint]
  have threaded : IsThreaded s workflow calls (.runs id branch) := ⟨isRegistered, isBranch⟩
  exact ⟨.faulted standing rfl scheduled threaded,
    fun runs => names ▸ standing.call rfl unlisted scheduled threaded runs⟩

/-- A completed run is seen with one look more if it was seen before or is the latest of the runs
that this look shows. -/
theorem seesCompleted_look {calls : List CallRecord} {id : UInt64} {branch : String}
    {runs : List WorkflowRun} {run : WorkflowRun} :
    SeesCompleted (calls ++ [⟨credentials, .runs id branch, some (.ok runs)⟩]) run ↔
      SeesCompleted calls run ∨ (runs.head? = some run ∧ run.status = "completed") := by
  constructor
  · rintro ⟨workflow, name, later, answered, completed⟩
    rcases answered_append_one.mp answered with old | new
    · exact .inl ⟨workflow, name, later, old, completed⟩
    · cases new
      exact .inr ⟨rfl, completed⟩
  · rintro (seen | ⟨first, completed⟩)
    · exact seen.append _
    · obtain ⟨later, rfl⟩ := List.head?_eq_some_iff.mp first
      exact ⟨id, branch, later, answered_last _ _ _, completed⟩

/-- A look at the run shows the latest one, and a completed one only if that is completed. -/
theorem look_calls {target : Target} {looks : Nat} {id : UInt64}
    (standing : Standing s token repo workflow target.credentials
      (openingCalls ++ List.replicate looks "list_workflow_runs") (callsOf past))
    (few : looks < s.maxPollAttempts) (isRegistered : IsRegistered s (callsOf past) id)
    (branch : IsDefaultBranch (callsOf past) target.branch)
    (unseen : ∀ run, ¬SeesCompleted (callsOf past) run) :
    (look s target id).Ensures (Stops s token repo workflow)
      (fun latest now =>
        Standing s token repo workflow target.credentials
          (openingCalls ++ List.replicate (looks + 1) "list_workflow_runs") (callsOf now) ∧
        IsRegistered s (callsOf now) id ∧ IsDefaultBranch (callsOf now) target.branch ∧
        (∀ run, latest = some run → run.status = "completed" →
          IsCompletedRun (callsOf now) run.id) ∧
        ∀ run, SeesCompleted (callsOf now) run ↔
          latest = some run ∧ run.status = "completed") past := by
  simp only [look, ensures_bind, ensures_pause, ensures_call, ensures_pure, Stops,
    outcome_ofRemote, callsOf_pause, callsOf_call]
  have looked := standing.look few isRegistered branch
  refine ⟨.halted standing, looked.1, fun runs => ⟨looked.2 runs, isRegistered.append _,
    branch.append _, fun run first completed => ?_, fun run => ?_⟩⟩
  · obtain ⟨later, rfl⟩ := List.head?_eq_some_iff.mp first
    exact ⟨target.credentials, id, target.branch, run, later, by simp, completed, rfl⟩
  · rw [seesCompleted_look]
    exact or_iff_right (unseen run)

/-- A status has a given name if it is that of the name. -/
theorem ofName_eq_completed {status : String} :
    RunStatus.ofName status = .completed ↔ status = "completed" := by
  constructor
  · intro completed
    rw [← RunStatus.name_ofName status, completed, RunStatus.name]
  · rintro rfl
    rfl

/-- The looks that are left end with a session under way, or stop it. -/
theorem poll_calls {target : Target} {id : UInt64} {attempts looks : Nat}
    {latest : Option WorkflowRun}
    (standing : Standing s token repo workflow target.credentials
      (openingCalls ++ List.replicate looks "list_workflow_runs") (callsOf past))
    (left : looks + attempts = s.maxPollAttempts)
    (isRegistered : IsRegistered s (callsOf past) id)
    (branch : IsDefaultBranch (callsOf past) target.branch)
    (unseen : ∀ run, ¬SeesCompleted (callsOf past) run) :
    (poll s target id attempts latest).Ensures (Stops s token repo workflow)
      (HasLooked s token repo workflow target) past := by
  -- The looks taken and the attempts left add up to the looks allowed, all the way.
  induction attempts generalizing past looks latest with
  | zero =>
    have few : looks ≤ s.maxPollAttempts := by omega
    cases latest with
    | none => exact ensures_pure.mpr ⟨looks, few, standing, by simp⟩
    | some run => exact ensures_pure.mpr ⟨looks, few, standing, by simp⟩
  | succ attempts ih =>
    have few : looks < s.maxPollAttempts := by omega
    rw [poll, ensures_bind]
    refine (look_calls standing few isRegistered branch unseen).imp (fun _ _ held => held) ?_
    rintro (_ | run) now ⟨looked, isRegistered, branch, completes, sees⟩
    · exact ih looked (by omega) isRegistered branch (by simp [sees])
    · rw [ensures_bind]
      refine note_ensures.imp (fun _ _ held => held) fun _ later noted => ?_
      rw [← noted.callsOf_eq] at looked isRegistered branch completes sees
      rw [ensures_ite, ensures_pure, ofName_eq_completed]
      refine ⟨fun completed => ⟨looks + 1, few, looked, ?_⟩, fun incomplete => ?_⟩
      · rintro _ ⟨⟩
        refine ⟨by omega, completes run rfl completed, fun other => ?_⟩
        rw [sees, Option.some.injEq]
        exact ⟨fun seen => seen.1.symm, fun same => ⟨same.symm, same ▸ completed⟩⟩
      · refine ih looked (by omega) isRegistered branch fun other seen => ?_
        obtain ⟨same, completed⟩ := (sees other).mp seen
        cases same
        exact incomplete completed

/-- Looking at the run ends with a session under way, or stops it. -/
theorem awaitRun_calls {target : Target} {registered : RemoteWorkflow}
    (standing : Standing s token repo workflow target.credentials openingCalls (callsOf past))
    (branch : IsDefaultBranch (callsOf past) target.branch)
    (isRegistered : IsRegistered s (callsOf past) registered.id) :
    (awaitRun s target registered).Ensures (Stops s token repo workflow)
      (HasLooked s token repo workflow target) past := by
  have unlooked : Standing s token repo workflow target.credentials
      (openingCalls ++ List.replicate 0 "list_workflow_runs") (callsOf past) := by
    rwa [List.replicate_zero, List.append_nil]
  have unseen : ∀ run, ¬SeesCompleted (callsOf past) run := by
    rintro run ⟨workflow, name, runs, answered, -⟩
    have named := answered.endpoint_mem
    rw [standing.names_eq] at named
    simp [openingCalls, Call.endpoint] at named
  have polls : ∀ now, callsOf now = callsOf past →
      (poll s target registered.id s.maxPollAttempts none).Ensures
        (Stops s token repo workflow) (HasLooked s token repo workflow target) now :=
    fun now same => poll_calls (same ▸ unlooked) (Nat.zero_add _) (same ▸ isRegistered)
      (same ▸ branch) (same ▸ unseen)
  simp only [awaitRun, waitUnlooked, ensures_bind, ensures_enter, ensures_info, ensures_ite,
    ensures_pause, ensures_pure, Stops, callsOf_enter, callsOf_tell, callsOf_pause]
  refine ⟨.halted standing, fun _ => ⟨.halted standing, polls _ ?_⟩, fun _ => polls _ ?_⟩
  · rw [callsOf_pause, callsOf_tell, callsOf_enter]
  · rw [callsOf_tell, callsOf_enter]

end Pipewright
