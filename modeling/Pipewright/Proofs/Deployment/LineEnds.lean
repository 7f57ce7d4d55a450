import Pipewright.Command.Attend
import Pipewright.Proofs.Deployment.Wordings

/-!
# Line ends in entries

Every entry of a session has one of the wordings of `IsWorded` (`session_worded`), stage by stage.
So an entry holds a line end exactly where it quotes one: the default branch, the name of a
workflow, the status, the conclusion or the address of a run, what is said of a job and what a
failed call was answered are told as they are. Only logs are taken apart at their line ends.
-/
namespace Pipewright

open Procedure Deployment Wording

/-! ## Entries with wordings -/

/-- Whether all entries of a history have wordings of a session. -/
def AreWorded (s : Settings) (history : List SessionTurn) : Prop :=
  ∀ entry ∈ entriesOf history, ∃ w, IsWorded s (callsOf history) w ∧ w.message = entry.2

/-- Whether they still have where a fault leaves its entry. -/
def StopsWorded (s : Settings) (fault : DeployFault) (now : List SessionTurn) : Prop :=
  AreWorded s (now ++ [⟨.tell fault.level fault.line, ()⟩])

section Turns

variable {s : Settings} {past now : List SessionTurn}

/-- Calls that were made stay made. -/
theorem callsOf_later (later : past <+: now) : ∃ more, callsOf now = callsOf past ++ more := by
  obtain ⟨more, rfl⟩ := later
  exact ⟨callsOf more, List.filterMap_append⟩

/-- The default branch stays known. -/
theorem IsDefaultBranch.later {branch : String} (found : IsDefaultBranch (callsOf past) branch)
    (later : past <+: now) : IsDefaultBranch (callsOf now) branch := by
  obtain ⟨more, same⟩ := callsOf_later later
  exact same ▸ found.append more

/-- A run that was listed stays known. -/
theorem IsListedRun.later {run : WorkflowRun} (listed : IsListedRun (callsOf past) run)
    (later : past <+: now) : IsListedRun (callsOf now) run := by
  obtain ⟨more, same⟩ := callsOf_later later
  exact same ▸ listed.append more

/-- What a call was answered stays known. -/
theorem Answered.later {c : Call} {reply : c.Reply} (answered : Answered (callsOf past) c reply)
    (later : past <+: now) : Answered (callsOf now) c reply := by
  obtain ⟨more, same⟩ := callsOf_later later
  exact same ▸ answered.append more

/-- What a call is answered is known from then on. -/
theorem answered_call (credentials : Credentials) (c : Call) (reply : c.Reply) :
    Answered (callsOf (past ++ [⟨.call credentials c, .ok reply⟩])) c reply := by
  rw [callsOf_call]
  exact answered_last _ _ _

/-- Without entries there is nothing to word. -/
theorem areWorded_nil : AreWorded s [] := fun _ member => absurd member List.not_mem_nil

/-- Entries with wordings keep them whatever comes next. -/
theorem AreWorded.append_one (worded : AreWorded s past) (turn : SessionTurn)
    (told : ∀ entry, entry? turn = some entry →
      ∃ w, IsWorded s (callsOf past) w ∧ w.message = entry.2) :
    AreWorded s (past ++ [turn]) := by
  have calls : callsOf (past ++ [turn]) = callsOf past ++ callsOf [turn] := List.filterMap_append
  have later {entry : Level × String}
      (held : ∃ w, IsWorded s (callsOf past) w ∧ w.message = entry.2) :
      ∃ w, IsWorded s (callsOf (past ++ [turn])) w ∧ w.message = entry.2 := by
    obtain ⟨w, isWorded, same⟩ := held
    exact ⟨w, calls ▸ isWorded.append _, same⟩
  intro entry member
  rw [entriesOf_append, List.mem_append] at member
  obtain before | last := member
  · exact later (worded entry before)
  · obtain ⟨_, one, made⟩ := List.mem_filterMap.mp last
    rw [List.mem_singleton.mp one] at made
    exact later (told entry made)

/-- A turn that makes no entry leaves the others their wordings. -/
theorem AreWorded.quiet (worded : AreWorded s past) (turn : SessionTurn)
    (silent : entry? turn = none) : AreWorded s (past ++ [turn]) :=
  worded.append_one turn fun entry made => by rw [silent] at made; cases made

/-- An entry is made that has a wording. -/
theorem AreWorded.tell (worded : AreWorded s past) (level : Level) {w : Wording} {message : String}
    (isWorded : IsWorded s (callsOf past) w) (same : w.message = message) :
    AreWorded s (past ++ [⟨.tell level message, ()⟩]) := by
  refine worded.append_one _ fun entry made => ?_
  cases made
  exact ⟨w, isWorded, same⟩

/-- An entry is made that quotes nothing. -/
theorem AreWorded.tell_plain (worded : AreWorded s past) (level : Level) (message : String)
    (oneLine : IsOneLine message) :
    AreWorded s (past ++ [⟨.tell level message, ()⟩]) :=
  worded.tell level (.plain message oneLine) (message_plain message oneLine)

/-- A stage is announced that is entered. -/
theorem AreWorded.announces (worded : AreWorded s past) (stage : Stage) (message : String)
    (oneLine : IsOneLine message) :
    AreWorded s (past ++ [⟨.enter stage, false⟩] ++ [⟨.tell .info message, ()⟩]) :=
  (worded.quiet ⟨.enter stage, false⟩ rfl).tell_plain .info message oneLine

/-- A fault leaves an entry that quotes nothing. -/
theorem AreWorded.stops (worded : AreWorded s past) {fault : DeployFault}
    (oneLine : IsOneLine fault.message) : StopsWorded s fault past :=
  worded.tell_plain _ _ (isOneLine_line oneLine)

/-- So does one that cancels a session. -/
theorem AreWorded.cancelled (worded : AreWorded s past) (turn : SessionTurn)
    (silent : entry? turn = none) : StopsWorded s .cancelled (past ++ [turn]) :=
  (worded.quiet turn silent).stops (isOneLine_ofList (by decide))

/-- A call that fails leaves an entry that quotes what it was answered. -/
theorem AreWorded.fails (worded : AreWorded s past) (credentials : Credentials) (c : Call)
    (fault : RemoteFault) :
    StopsWorded s (.ofRemote fault) (past ++ [⟨.call credentials c, .error fault⟩]) := by
  have failed : HasFailedWith (callsOf (past ++ [⟨.call credentials c, .error fault⟩])) fault := by
    rw [callsOf_call]
    exact ⟨credentials, c, List.mem_append_right _ List.mem_cons_self⟩
  exact (worded.quiet _ (by rfl)).tell _ (.fault failed) (message_faultWording fault)

end Turns

/-! ## Stages -/

section Stages

variable {s : Settings} {token repo workflow : String} {credentials : Credentials}
  {target : Target} {past : List SessionTurn}

/-- What is told of what was given quotes nothing. -/
theorem validate_worded (worded : AreWorded s past) :
    (validate token repo workflow).Ensures (StopsWorded s) (fun _ now => AreWorded s now) past := by
  have entered := worded.quiet ⟨.enter .validatingCredentials, false⟩ rfl
  rw [validate, ensures_bind, ensures_enter]
  refine ⟨worded.cancelled _ (by rfl), ?_⟩
  cases Credentials.check token repo with
  | error fault =>
    exact ensures_stop.mpr (entered.stops (isOneLine_credentialFault fault))
  | ok credentials =>
    simp only [ensures_ite, ensures_bind, ensures_stop, ensures_pure]
    exact ⟨fun _ => entered.stops (isOneLine_ofList (by decide)), fun _ => entered⟩

/-- What is told of the repository quotes its default branch. -/
theorem findTarget_worded (worded : AreWorded s past) :
    (findTarget credentials).Ensures (StopsWorded s)
      (fun target now => AreWorded s now ∧ IsDefaultBranch (callsOf now) target.branch) past := by
  simp only [findTarget, ensures_bind, ensures_enter, ensures_info, ensures_call, ensures_pure]
  have poised := worded.announces .fetchingRepoMetadata "Fetching repository information..."
    (isOneLine_ofList (by decide))
  refine ⟨worded.cancelled _ (by rfl), poised.fails _ _, fun repository => ?_⟩
  have found : IsDefaultBranch (callsOf (past ++ [⟨.enter .fetchingRepoMetadata, false⟩] ++
      [⟨.tell .info "Fetching repository information...", ()⟩] ++
      [⟨.call credentials .repository, .ok repository⟩])) repository.defaultBranch :=
    ⟨repository, answered_call .., rfl⟩
  have told := (poised.quiet _ (by rfl)).tell .info (.branch found (.head _))
    (message_quoting_last ..)
  exact ⟨told, found.later (List.prefix_append _ _)⟩

/-- What is told of the head of the branch quotes the start of its hash. -/
theorem findBase_worded (worded : AreWorded s past) :
    (findBase target).Ensures (StopsWorded s) (fun _ now => AreWorded s now) past := by
  simp only [findBase, ensures_bind, ensures_enter, ensures_info, ensures_call, ensures_pure]
  have poised := worded.announces .resolvingCommitBase "Getting latest commit information..."
    (isOneLine_ofList (by decide))
  refine ⟨worded.cancelled _ (by rfl), poised.fails _ _, fun branch => ?_⟩
  have asked := poised.quiet ⟨.call target.credentials (.branch target.branch), .ok branch⟩ rfl
  have told := asked.tell .info (.head ⟨_, branch, answered_call .., rfl⟩)
    (message_quoting_last "Latest commit SHA: " _ _ _)
  exact ⟨told.fails _ _, fun tree => told.quiet _ (by rfl)⟩

/-- What is told of the commit quotes the branch. -/
theorem publish_worded {base : CommitBase} (worded : AreWorded s past)
    (found : IsDefaultBranch (callsOf past) target.branch) :
    (publish s target base workflow).Ensures (StopsWorded s) (fun _ now => AreWorded s now)
      past := by
  simp only [publish, ensures_bind, ensures_enter, ensures_info, ensures_success, ensures_call,
    ensures_callOr]
  have poised := worded.announces .publishingWorkflow "Creating workflow file..."
    (isOneLine_ofList (by decide))
  refine ⟨worded.cancelled _ (by rfl), poised.fails _ _, fun blob => ?_⟩
  have blobbed := (poised.quiet ⟨.call target.credentials (.createBlob workflow), .ok blob⟩
    rfl).tell_plain .info "Setting up directory structure..." (isOneLine_ofList (by decide))
  refine ⟨blobbed.fails _ _, fun tree => ?_⟩
  have treed := (blobbed.quiet ⟨.call target.credentials
    (.createTree base.tree s.workflowPath blob.sha), .ok tree⟩ rfl).tell_plain .info
    "Committing workflow file to repository..." (isOneLine_ofList (by decide))
  refine ⟨treed.fails _ _, fun commit => ?_⟩
  have still {now : List SessionTurn} (later : past <+: now) :
      IsDefaultBranch (callsOf now) target.branch := found.later later
  have committed := (treed.quiet ⟨.call target.credentials
    (.createCommit s.commitMessage tree.sha base.commit), .ok commit⟩ rfl).tell .info
    (.branch (still (by simp only [List.append_assoc, List.prefix_append])) (.tail _ (.head _)))
    (message_quoting ..)
  refine ⟨fun fault => ?_, fun reply => ?_⟩
  · cases fault with
    | conflict status message =>
      exact (committed.quiet _ (by rfl)).tell _
        (.conflict (still (by simp only [List.append_assoc, List.prefix_append])) status)
        (message_conflictWording target.branch status)
    | _ => exact committed.fails _ _ _
  · exact (committed.quiet _ (by rfl)).tell .success (.branch
      (still (by simp only [List.append_assoc, List.prefix_append])) (.tail _ (.tail _ (.head _))))
      (message_quoting_last ..)

/-- What is told while the workflow is looked for quotes nothing. -/
theorem findWorkflow_worded (worded : AreWorded s past) :
    (findWorkflow s target).Ensures (StopsWorded s)
      (fun registered now => AreWorded s now ∧ ∃ workflows,
        Answered (callsOf now) .workflows workflows ∧ registered ∈ workflows) past := by
  simp only [findWorkflow, ensures_bind, ensures_enter, ensures_info, ensures_pause, ensures_call]
  have waiting := worded.announces .awaitingRegistration
    "Waiting for GitHub to register the workflow..." (isOneLine_ofList (by decide))
  have poised := (waiting.quiet ⟨.pause s.registrationDelay, false⟩ rfl).tell_plain .info
    "Fetching workflow information..." (isOneLine_ofList (by decide))
  refine ⟨worded.cancelled _ (by rfl), waiting.cancelled _ (by rfl), poised.fails _ _,
    fun workflows => ?_⟩
  have asked := poised.quiet ⟨.call target.credentials .workflows, .ok workflows⟩ rfl
  cases found : workflows.find? fun w => w.path == s.workflowPath with
  | none =>
    refine ensures_stop.mpr (asked.stops (isOneLine_append.mpr ⟨?_, ?_⟩))
    · exact isOneLine_ofList (by decide)
    · exact isOneLine_ofList (by decide)
  | some registered =>
    exact ensures_pure.mpr
      ⟨asked, workflows, answered_call .., List.mem_of_find?_eq_some found⟩

/-- What is told of the start of the workflow quotes its name. -/
theorem trigger_worded {registered : RemoteWorkflow} {workflows : List RemoteWorkflow}
    (worded : AreWorded s past) (answered : Answered (callsOf past) .workflows workflows)
    (listed : registered ∈ workflows) :
    (trigger target registered).Ensures (StopsWorded s) (fun _ now => AreWorded s now) past := by
  simp only [trigger, ensures_bind, ensures_enter, ensures_info, ensures_success, ensures_call]
  have poised := (worded.quiet ⟨.enter .triggeringRun, false⟩ rfl).tell .info
    (.workflow (answered.later (List.prefix_append _ _)) listed) (message_quoting ..)
  exact ⟨worded.cancelled _ (by rfl), poised.fails _ _, fun reply =>
    (poised.quiet ⟨.call target.credentials (.dispatch registered.id target.branch),
      .ok reply⟩ rfl).tell_plain _ _ (isOneLine_ofList (by decide))⟩

/-! ## Looks at the run -/

/-- What is told of the status of a run quotes it, or its conclusion. -/
theorem statusLine_worded {calls : List CallRecord} {run : WorkflowRun}
    (listed : IsListedRun calls run) :
    ∃ w, IsWorded s calls w ∧ w.message = (RunStatus.ofName run.status).line run.conclusion := by
  have named := RunStatus.name_ofName run.status
  cases status : RunStatus.ofName run.status with
  | queued =>
    exact ⟨_, .plain "Workflow run is queued and waiting to start..."
      (isOneLine_ofList (by decide)), message_plain ..⟩
  | inProgress =>
    exact ⟨_, .plain "Workflow run is in progress..." (isOneLine_ofList (by decide)),
      message_plain ..⟩
  | completed => exact ⟨_, .run listed (.head _), message_quoting_last ..⟩
  | other name =>
    rw [status] at named
    exact ⟨_, .run listed (.tail _ (.head _)), (message_quoting_last ..).trans
      (congrArg ("Workflow run status: " ++ ·) named.symm)⟩

/-- What is noted of a run quotes its status or its conclusion. -/
theorem note_worded {latest : Option WorkflowRun} {run : WorkflowRun}
    {failed : DeployFault → List SessionTurn → Prop} (worded : AreWorded s past)
    (listed : IsListedRun (callsOf past) run) :
    (note s target latest run).Ensures failed (fun _ now => AreWorded s now) past := by
  obtain ⟨w, isWorded, same⟩ := statusLine_worded (s := s) listed
  simp only [note, ensures_bind, ensures_ite, ensures_info]
  have told := worded.tell .info isWorded same
  exact ⟨fun _ => ensures_question.mpr fun _ => told.quiet _ (by rfl),
    fun _ => ensures_question.mpr fun _ => worded.quiet _ (by rfl)⟩

/-- The run that looks have ended with. -/
def Polled.run? : Polled → Option WorkflowRun
  | completed run => some run
  | unfinished run => some run
  | unseen => none

/-- What is told in looks at the run quotes what they are answered, and the run that they end with
was listed. -/
theorem poll_worded {id : UInt64} {attempts : Nat} {latest : Option WorkflowRun}
    (worded : AreWorded s past) (listed : ∀ run ∈ latest, IsListedRun (callsOf past) run) :
    (poll s target id attempts latest).Ensures (StopsWorded s)
      (fun polled now => AreWorded s now ∧ ∀ run ∈ polled.run?, IsListedRun (callsOf now) run)
      past := by
  -- The run seen last stays listed while more looks are taken.
  induction attempts generalizing past latest with
  | zero =>
    cases latest with
    | none => exact ensures_pure.mpr ⟨worded, listed⟩
    | some run => exact ensures_pure.mpr ⟨worded, listed⟩
  | succ attempts ih =>
    simp only [poll, look, ensures_bind, ensures_pause, ensures_call, ensures_pure]
    have poised := worded.quiet ⟨.pause s.pollInterval, false⟩ rfl
    refine ⟨worded.cancelled _ (by rfl), poised.fails _ _, fun runs => ?_⟩
    have looked := poised.quiet ⟨.call target.credentials (.runs id target.branch), .ok runs⟩ rfl
    cases runs with
    | nil =>
      exact ih looked fun run seen => (listed run seen).later (by
        simp only [List.append_assoc, List.prefix_append])
    | cons run others =>
      have shown : IsListedRun (callsOf (past ++ [⟨.pause s.pollInterval, false⟩] ++
          [⟨.call target.credentials (.runs id target.branch), .ok (run :: others)⟩])) run :=
        ⟨id, target.branch, _, answered_call .., List.mem_cons_self⟩
      rw [List.head?_cons]
      refine ensures_bind.mpr ((note_worded looked shown).goes_on.imp (fun _ _ held => held) ?_)
      rintro _ now ⟨noted, later⟩
      rw [ensures_ite, ensures_pure]
      have still : ∀ other ∈ some run, IsListedRun (callsOf now) other := by
        rintro _ ⟨⟩
        exact shown.later later
      exact ⟨fun _ => ⟨noted, still⟩, fun _ => ih noted still⟩

/-- So does what is told from the start of the looks. -/
theorem awaitRun_worded {registered : RemoteWorkflow} (worded : AreWorded s past) :
    (awaitRun s target registered).Ensures (StopsWorded s)
      (fun polled now => AreWorded s now ∧ ∀ run ∈ polled.run?, IsListedRun (callsOf now) run)
      past := by
  simp only [awaitRun, waitUnlooked, ensures_bind, ensures_enter, ensures_info, ensures_ite,
    ensures_pause, ensures_pure]
  have waiting := worded.announces .pollingRun "Waiting for workflow run to start..."
    (isOneLine_ofList (by decide))
  have unseen {calls : List CallRecord} : ∀ run ∈ none, IsListedRun calls run :=
    fun run seen => absurd seen (Option.not_mem_none run)
  refine ⟨worded.cancelled _ (by rfl), fun _ => ⟨waiting.cancelled _ (by rfl), ?_⟩,
    fun _ => poll_worded waiting unseen⟩
  exact poll_worded (waiting.quiet _ (by rfl)) unseen

/-! ## Results -/

section Jobs

variable {failed : DeployFault → List SessionTurn → Prop} {id : UInt64} {jobs : List RunJob}
  {job : RunJob}

/-- The lines of a log quote nothing that is not one line. -/
theorem tellLog_worded (lines : List String) (oneLine : ∀ line ∈ lines, IsOneLine line)
    (worded : AreWorded s past) :
    (tellLog lines).Ensures failed (fun _ now => AreWorded s now) past := by
  induction lines generalizing past with
  | nil => exact ensures_pure.mpr worded
  | cons line lines ih =>
    rw [tellLog, ensures_bind, ensures_info]
    exact ih (fun line member => oneLine line (List.mem_cons_of_mem _ member))
      (worded.tell_plain .info line (oneLine line List.mem_cons_self))

/-- What is told of a job quotes its name, its status and its conclusion. -/
theorem tellJob_worded (skipping : Bool) (worded : AreWorded s past)
    (answered : Answered (callsOf past) (.jobs id) jobs) (listed : job ∈ jobs) :
    (tellJob credentials skipping job).Ensures failed (fun _ now => AreWorded s now) past := by
  simp only [tellJob, ensures_bind, ensures_info, ensures_ite, ensures_pure]
  have still {now : List SessionTurn} (later : past <+: now) :
      Answered (callsOf now) (.jobs id) jobs := answered.later later
  have named := worded.tell .info (.job answered listed (.head _)) (message_quoting_last ..)
  have told := named.tell .info
    (.job (still (List.prefix_append _ _)) listed (.tail _ (.head _))) (message_stateWording job)
  refine ⟨fun _ => told, fun _ => ensures_question.mpr ?_⟩
  have fetching := told.tell .info (.job (still (by
    simp only [List.append_assoc, List.prefix_append])) listed (.tail _ (.tail _ (.head _))))
    (message_quoting ..)
  rintro (_ | fault | log)
  · rw [ensures_bind, ensures_warning]
    exact (fetching.quiet _ (by rfl)).tell_plain _ _ (isOneLine_ofList (by decide))
  · rw [ensures_bind, ensures_warning]
    exact (fetching.quiet _ (by rfl)).tell_plain _ _ (isOneLine_ofList (by decide))
  · rw [ensures_bind]
    exact tellLog_worded (logLines log) (fun _ => isOneLine_of_mem_logLines)
      (fetching.quiet _ (by rfl))

/-- So does what is told of jobs one after another. -/
theorem tellJobs_worded (skipping : Bool) (later : List RunJob) (worded : AreWorded s past)
    (answered : Answered (callsOf past) (.jobs id) jobs) (listed : ∀ job ∈ later, job ∈ jobs) :
    (tellJobs credentials skipping later).Ensures failed (fun _ now => AreWorded s now) past := by
  induction later generalizing past skipping with
  | nil => exact ensures_pure.mpr worded
  | cons job later ih =>
    rw [tellJobs, ensures_bind]
    refine (tellJob_worded skipping worded answered (listed job List.mem_cons_self)).goes_on.imp
      (fun _ _ held => held) ?_
    rintro skips now ⟨worded, onward⟩
    exact ih skips worded (answered.later onward)
      fun other member => listed other (List.mem_cons_of_mem _ member)

end Jobs

/-- What is told of where a run can be viewed quotes its address, or that of the service's pages. -/
theorem viewLine_worded {calls : List CallRecord} {run : WorkflowRun} (repo : Slug)
    (listed : IsListedRun calls run) :
    ∃ w, IsWorded s calls w ∧
      w.message = "✅ View complete run at: " ++ s.runAddress repo run := by
  unfold Settings.runAddress
  cases own : run.htmlUrl with
  | some url => exact ⟨_, .address listed own, message_quoting_last ..⟩
  | none =>
    refine ⟨_, .page repo run.id, (message_quoting ..).trans ?_⟩
    simp only [Option.getD_none, Settings.runUrl, Settings.actionsUrl, String.append_assoc]

/-- What is told of the results of a run quotes what was said of it and of its jobs. -/
theorem collect_worded {run : WorkflowRun} (worded : AreWorded s past)
    (listed : IsListedRun (callsOf past) run) :
    (collect s target run).Ensures (StopsWorded s) (fun _ now => AreWorded s now) past := by
  simp only [collect, tellFailure, ensures_bind, ensures_enter, ensures_info, ensures_call,
    ensures_ite, ensures_error, ensures_success, ensures_pure]
  have poised := worded.announces .collectingResults "Fetching job results..."
    (isOneLine_ofList (by decide))
  refine ⟨worded.cancelled _ (by rfl), poised.fails _ _, fun jobs => ?_⟩
  have asked := poised.quiet ⟨.call target.credentials (.jobs run.id), .ok jobs⟩ rfl
  refine (tellJobs_worded false jobs asked (answered_call ..) fun _ => id).goes_on.imp
    (fun _ _ held => held) ?_
  rintro _ now ⟨told, onward⟩
  have still {later : List SessionTurn} (goesOn : now <+: later) :
      IsListedRun (callsOf later) run :=
    listed.later (List.IsPrefix.trans (by simp only [List.append_assoc, List.prefix_append])
      (onward.trans goesOn))
  constructor
  · intro _
    have failed := told.tell .error
      (.run (still List.prefix_rfl) (.tail _ (.tail _ (.head _)))) (message_quoting_last ..)
    obtain ⟨w, isWorded, same⟩ := viewLine_worded (s := s) target.credentials.repo
      (still (List.prefix_append now
        [⟨.tell .error ("❌ Workflow run failed with conclusion: " ++
          run.conclusion.getD "unknown"), ()⟩]))
    exact failed.tell .success isWorded same
  · intro _
    obtain ⟨w, isWorded, same⟩ := viewLine_worded (s := s) target.credentials.repo
      (still List.prefix_rfl)
    exact told.tell .success isWorded same

/-- So does what is told of a run that has not completed; where there is none nothing is quoted. -/
theorem conclude_worded {polled : Polled} (worded : AreWorded s past)
    (listed : ∀ run ∈ polled.run?, IsListedRun (callsOf past) run) :
    (conclude s target polled).Ensures (StopsWorded s) (fun _ now => AreWorded s now) past := by
  cases polled with
  | completed run => exact collect_worded worded (listed run rfl)
  | unfinished run =>
    simp only [conclude, ensures_bind, ensures_warning, ensures_info, ensures_pure]
    have told := worded.tell .warning
      (.run (listed run rfl) (.tail _ (.tail _ (.tail _ (.head _))))) (message_quoting ..)
    refine told.tell .info (.runsPage target.credentials.repo) ((message_quoting ..).trans ?_)
    simp only [Settings.actionsUrl, String.append_assoc, String.append_empty]
  | unseen =>
    simp only [conclude, ensures_bind, ensures_warning, ensures_pure]
    refine worded.tell_plain _ _ (isOneLine_append.mpr ⟨?_, ?_⟩)
    · exact isOneLine_ofList (by decide)
    · exact isOneLine_ofList (by decide)

/-- All entries of a session have wordings, whatever is answered to it. -/
theorem session_worded (s : Settings) (token repo workflow : String) :
    Dialogue.Ensures (fun now (_ : Outcome) => AreWorded s now) []
      (session s token repo workflow) := by
  have stops : ∀ fault now, StopsWorded s fault now →
      AreWorded s (now ++ [⟨.tell fault.level fault.line, ()⟩]) := fun _ _ held => held
  refine Session.ensures_ofProcedure.mpr ?_
  rw [steps, ensures_bind, ensures_info, ensures_bind]
  have opened : AreWorded s _ := areWorded_nil.tell_plain .info
    "Initializing GitHub Actions deployment..." (isOneLine_ofList (by decide))
  refine (validate_worded opened).imp stops ?_
  intro credentials _ worded
  rw [ensures_bind]
  refine (findTarget_worded worded).imp stops ?_
  rintro target _ ⟨worded, found⟩
  rw [ensures_bind]
  refine (findBase_worded worded).goes_on.imp stops ?_
  rintro base _ ⟨worded, later⟩
  rw [ensures_bind]
  refine (publish_worded worded (found.later later)).imp stops fun _ _ worded => ?_
  rw [ensures_bind]
  refine (findWorkflow_worded worded).imp stops ?_
  rintro registered _ ⟨worded, workflows, answered, listed⟩
  rw [ensures_bind]
  refine (trigger_worded worded answered listed).imp stops fun _ _ worded => ?_
  rw [ensures_bind]
  refine (awaitRun_worded worded).imp stops ?_
  rintro polled _ ⟨worded, listed⟩
  exact conclude_worded worded listed

/-- So have those of one that may be refused. -/
theorem unlessBusy_worded (s : Settings) (token repo workflow : String) (busy : Bool) :
    Dialogue.Ensures (fun now (_ : Outcome) => AreWorded s now) []
      (unlessBusy busy (session s token repo workflow)) := by
  cases busy with
  | false => exact session_worded s token repo workflow
  | true =>
    refine Session.ensures_ofProcedure.mpr (ensures_stop.mpr ?_)
    exact areWorded_nil.stops (isOneLine_ofList (by decide))

end Stages

end Pipewright
