import Mathlib.Data.List.DropRight
import Pipewright.Proofs.Credentials.Slug
import Pipewright.Proofs.Deployment.FaultLine

/-!
# Wordings of entries

A message consists of parts: what its wording fixes, and what it quotes of a reply. Nothing that is
fixed has a line end, and a wording carries the proof of that, so that a message is one line exactly
if what it quotes is (`Wording.isOneLine_message_iff`). The wordings of a session are listed by what
they quote (`IsWorded`); the lines of a job's log count as fixed, since they are taken apart at
line ends before they are told.
-/
namespace Pipewright

open Deployment

/-! ## Lines -/

/-- Whether a text is one line. -/
def IsOneLine (text : String) : Prop := '\n' ∉ text.toList

instance (text : String) : Decidable (IsOneLine text) :=
  inferInstanceAs (Decidable ('\n' ∉ text.toList))

/-- Texts one after the other are one line if both are. -/
theorem isOneLine_append {text other : String} :
    IsOneLine (text ++ other) ↔ IsOneLine text ∧ IsOneLine other := by
  rw [IsOneLine, String.toList_append, List.mem_append, not_or]
  rfl

/-- A text that is given by its characters is one line if no line end is among them. -/
theorem isOneLine_ofList {cs : List Char} (absent : '\n' ∉ cs) : IsOneLine (.ofList cs) := by
  rwa [IsOneLine, String.toList_ofList]

/-- A number is written on one line. -/
theorem isOneLine_toString (n : Nat) : IsOneLine (toString n) :=
  fun among => absurd (isDigit_of_mem_toString among) (by decide)

/-- A text with a number in it is one line if what is around the number is. -/
theorem isOneLine_numbered {before after : String} (n : Nat) (start : IsOneLine before)
    (stop : IsOneLine after) : IsOneLine (before ++ toString n ++ after) :=
  isOneLine_append.mpr ⟨isOneLine_append.mpr ⟨start, isOneLine_toString n⟩, stop⟩

/-- An owner is one line. -/
theorem Slug.isOneLine_owner (slug : Slug) : IsOneLine slug.owner := by
  obtain ⟨first, rest, split, starts, goesOn⟩ := (isOwner_iff slug.owner).mp slug.owner_valid
  rw [IsOneLine, split, List.mem_cons]
  rintro (rfl | among)
  · exact absurd starts (by decide)
  · exact absurd (goesOn '\n' among) (by decide)

/-- The name of a repository is one line. -/
theorem Slug.isOneLine_name (slug : Slug) : IsOneLine slug.name := fun among =>
  absurd (((isRepositoryName_iff slug.name).mp slug.name_valid).2 '\n' among) (by decide)

/-- A text is taken apart at every occurrence of a character. -/
theorem not_mem_of_mem_splitAtChar {separator : Char} {text part : List Char}
    (member : part ∈ splitAtChar separator text) : separator ∉ part := by
  induction text generalizing part with
  | nil =>
    rw [List.mem_singleton.mp member]
    exact List.not_mem_nil
  | cons c cs ih =>
    rw [splitAtChar] at member
    split at member
    · obtain rfl | member := List.mem_cons.mp member
      · exact List.not_mem_nil
      · exact ih member
    · next other =>
      split at member
      · rw [List.mem_singleton.mp member, List.mem_singleton]
        exact Ne.symm other
      · next first parts split =>
        rw [split] at ih
        obtain rfl | member := List.mem_cons.mp member
        · rw [List.mem_cons, not_or]
          exact ⟨Ne.symm other, ih List.mem_cons_self⟩
        · exact ih (List.mem_cons_of_mem _ member)

/-- The lines of a log are lines. -/
theorem isOneLine_of_mem_logLines {log line : String} (member : line ∈ logLines log) :
    IsOneLine line := by
  obtain ⟨shown, filtered, rfl⟩ := List.mem_map.mp member
  obtain ⟨part, parted, rfl⟩ := List.mem_map.mp (List.mem_filter.mp filtered).1
  rw [IsOneLine, String.toList_ofList]
  exact fun among =>
    not_mem_of_mem_splitAtChar parted ((List.rdropWhile_prefix isBlankChar _).subset among)

/-! ## Wordings -/

/-- A part of a message. -/
inductive MessagePart where
  /-- A text that the wording fixes. -/
  | fixed (text : String)
  /-- A text that is quoted. -/
  | quoted (text : String)

/-- The text of a part. -/
def MessagePart.text : MessagePart → String
  | fixed text => text
  | quoted text => text

/-- The text that parts quote. -/
def MessagePart.quoted? : MessagePart → Option String
  | fixed _ => none
  | quoted text => some text

/-- A message in its parts, where nothing that is fixed has a line end. -/
structure Wording where
  /-- The parts in order. -/
  parts : List MessagePart
  /-- What is fixed is on one line. -/
  fixed_isOneLine : ∀ text, .fixed text ∈ parts → IsOneLine text

namespace Wording

/-- The text of parts. -/
def spelled : List MessagePart → String
  | [] => ""
  | part :: parts => part.text ++ spelled parts

/-- The message. -/
def message (w : Wording) : String := spelled w.parts

/-- The texts that it quotes. -/
def quotes (w : Wording) : List String := w.parts.filterMap MessagePart.quoted?

/-- A message that quotes nothing. -/
def plain (text : String)
    (oneLine : IsOneLine text := by exact isOneLine_ofList (by decide)) : Wording where
  parts := [.fixed text]
  fixed_isOneLine := by simpa using oneLine

/-- A message that quotes one text. -/
def quoting (before text after : String)
    (start : IsOneLine before := by exact isOneLine_ofList (by decide))
    (stop : IsOneLine after := by exact isOneLine_ofList (by decide)) : Wording where
  parts := [.fixed before, .quoted text, .fixed after]
  fixed_isOneLine := by simpa using ⟨start, stop⟩

/-- A message of two. -/
def append (w v : Wording) : Wording where
  parts := w.parts ++ v.parts
  fixed_isOneLine text member :=
    (List.mem_append.mp member).elim (w.fixed_isOneLine text) (v.fixed_isOneLine text)

/-- A message is one line if all its parts are. -/
theorem isOneLine_spelled_iff (parts : List MessagePart) :
    IsOneLine (spelled parts) ↔ ∀ part ∈ parts, IsOneLine part.text := by
  induction parts with
  | nil => exact iff_of_true (isOneLine_ofList List.not_mem_nil) (by simp)
  | cons part parts ih => rw [spelled, isOneLine_append, ih, List.forall_mem_cons]

/-- A message is one line exactly if what it quotes is. -/
theorem isOneLine_message_iff (w : Wording) :
    IsOneLine w.message ↔ ∀ text ∈ w.quotes, IsOneLine text := by
  rw [message, isOneLine_spelled_iff, quotes]
  constructor
  · intro all text member
    obtain ⟨part, among, same⟩ := List.mem_filterMap.mp member
    cases part with
    | fixed fixed => cases same
    | quoted quoted =>
      cases same
      exact all _ among
  · intro all part among
    cases part with
    | fixed text => exact w.fixed_isOneLine text among
    | quoted text => exact all text (List.mem_filterMap.mpr ⟨_, among, rfl⟩)

/-- The message of a wording that quotes nothing. -/
theorem message_plain (text : String) (oneLine : IsOneLine text) :
    (plain text oneLine).message = text := String.append_empty

/-- The message of a wording that quotes one text. -/
theorem message_quoting (before text after : String) (start : IsOneLine before)
    (stop : IsOneLine after) :
    (quoting before text after start stop).message = before ++ text ++ after := by
  simp [message, quoting, spelled, MessagePart.text, String.append_assoc]

/-- The message of a wording that ends with what it quotes. -/
theorem message_quoting_last (before text : String) (start : IsOneLine before)
    (stop : IsOneLine "") : (quoting before text "" start stop).message = before ++ text :=
  (message_quoting before text "" start stop).trans String.append_empty

/-- Parts after parts are told after them. -/
theorem spelled_append (parts others : List MessagePart) :
    spelled (parts ++ others) = spelled parts ++ spelled others := by
  induction parts with
  | nil => exact String.empty_append.symm
  | cons part parts ih => rw [List.cons_append, spelled, spelled, ih, String.append_assoc]

/-- The message of a wording of two. -/
theorem message_append (w v : Wording) : (w.append v).message = w.message ++ v.message :=
  spelled_append w.parts v.parts

end Wording

/-! ## The wordings of a session -/

/-- Whether a run was listed. -/
def IsListedRun (calls : List CallRecord) (run : WorkflowRun) : Prop :=
  ∃ workflow branch runs, Answered calls (.runs workflow branch) runs ∧ run ∈ runs

/-- Whether a call failed so. -/
def HasFailedWith (calls : List CallRecord) (fault : RemoteFault) : Prop :=
  ∃ credentials c, ⟨credentials, c, some (.error fault)⟩ ∈ calls

open Wording

/-- What is told of the default branch. -/
def branchWordings (branch : String) : List Wording :=
  [quoting "Using default branch: " branch "",
    quoting "Updating " branch " branch reference...",
    quoting "✅ Workflow file committed successfully to " branch ""]

/-- What is told of a run: its conclusion, or a status that has no wording of its own. -/
def runWordings (run : WorkflowRun) : List Wording :=
  [quoting "Workflow run completed with conclusion: " (run.conclusion.getD "unknown") "",
    quoting "Workflow run status: " run.status "",
    quoting "❌ Workflow run failed with conclusion: " (run.conclusion.getD "unknown") "",
    quoting "Workflow run is still in progress. Status: " run.status "."]

/-- What is told of the state of a job. -/
def stateWording (job : RunJob) : Wording :=
  (quoting "Status: " job.status ", Conclusion: ").append
    (quoting "" (job.conclusion.getD "pending") "")

/-- The message on the state of a job. -/
theorem message_stateWording (job : RunJob) : (stateWording job).message =
    "Status: " ++ job.status ++ ", Conclusion: " ++ job.conclusion.getD "pending" := by
  rw [stateWording, message_append, message_quoting, message_quoting_last, String.empty_append]

/-- What is told of a job. -/
def jobWordings (job : RunJob) : List Wording :=
  [quoting "Job: " job.name "",
    stateWording job,
    quoting "Fetching logs for job \"" job.name "\"..."]

/-- What is told of a call that was refused. -/
def refusalWording (status : Nat) (payload : String) : Wording :=
  (plain "❌ ").append (quoting ("Error " ++ toString status ++ ": ") payload ""
    (isOneLine_numbered status (isOneLine_ofList (by decide)) (isOneLine_ofList (by decide))))

/-- What is told of a call that failed. -/
def faultWording : RemoteFault → Wording
  | .refused status payload => refusalWording status payload
  | .conflict status payload => refusalWording status payload
  | .unanswered message => (plain "❌ ").append (quoting "Error: " message "")
  | .unreadable message =>
    (plain "❌ ").append (quoting "Error: invalid response from GitHub: " message "")

/-- What is told of a branch that could not be moved. -/
def conflictWording (branch : String) (status : Nat) : Wording :=
  (plain "❌ ").append (quoting "Conflict: branch '" branch
    ("' changed while the workflow was being committed (status " ++ toString status ++
      "). Re-run the deployment to build on the latest commit") (isOneLine_ofList (by decide))
    (isOneLine_numbered status (isOneLine_ofList (by decide)) (isOneLine_ofList (by decide))))

/-- What is told of a page of a repository, below the address of the service's pages. -/
def pageWording (s : Settings) (before : String) (repo : Slug) (rest : String)
    (start : IsOneLine before := by exact isOneLine_ofList (by decide))
    (stop : IsOneLine rest := by exact isOneLine_ofList (by decide)) : Wording :=
  quoting before (Settings.trimSlashes s.webUrl)
    ("/" ++ repo.owner ++ "/" ++ repo.name ++ "/actions" ++ rest) start (by
    have slash : IsOneLine "/" := isOneLine_ofList (by decide)
    have actions : IsOneLine "/actions" := isOneLine_ofList (by decide)
    simp only [isOneLine_append, repo.isOneLine_owner, repo.isOneLine_name, slash, actions, stop,
      and_self])

/-- The wordings of a session, by what its calls were answered. -/
inductive IsWorded (s : Settings) (calls : List CallRecord) : Wording → Prop where
  /-- Nothing is quoted. -/
  | plain (text : String) (oneLine : IsOneLine text) : IsWorded s calls (.plain text oneLine)
  /-- The default branch is. -/
  | branch {branch : String} {wording : Wording} (found : IsDefaultBranch calls branch)
    (among : wording ∈ branchWordings branch) : IsWorded s calls wording
  /-- The start of a commit's hash is. -/
  | head {sha : String} (found : IsHead calls sha) :
    IsWorded s calls (quoting "Latest commit SHA: " (shortHash sha) "")
  /-- The name of a workflow is. -/
  | workflow {workflows : List RemoteWorkflow} {workflow : RemoteWorkflow}
    (answered : Answered calls .workflows workflows) (listed : workflow ∈ workflows) :
    IsWorded s calls (quoting "Triggering workflow run for \"" workflow.name "\"...")
  /-- The status or the conclusion of a run is. -/
  | run {run : WorkflowRun} {wording : Wording} (listed : IsListedRun calls run)
    (among : wording ∈ runWordings run) : IsWorded s calls wording
  /-- The address of a run is. -/
  | address {run : WorkflowRun} {url : String} (listed : IsListedRun calls run)
    (own : run.htmlUrl = some url) : IsWorded s calls (quoting "✅ View complete run at: " url "")
  /-- The address of the service's pages is, for a run that has none of its own. -/
  | page (repo : Slug) (run : UInt64) :
    IsWorded s calls (pageWording s "✅ View complete run at: " repo
      ("/runs/" ++ toString run.toNat) (isOneLine_ofList (by decide))
      (isOneLine_append.mpr ⟨isOneLine_ofList (by decide), isOneLine_toString _⟩))
  /-- It is for the runs of the repository. -/
  | runsPage (repo : Slug) : IsWorded s calls (pageWording s "View run at: " repo "")
  /-- The name of a job is, or its status and its conclusion. -/
  | job {run : UInt64} {jobs : List RunJob} {job : RunJob} {wording : Wording}
    (answered : Answered calls (.jobs run) jobs) (listed : job ∈ jobs)
    (among : wording ∈ jobWordings job) : IsWorded s calls wording
  /-- What a failed call was answered is. -/
  | fault {fault : RemoteFault} (failed : HasFailedWith calls fault) :
    IsWorded s calls (faultWording fault)
  /-- The default branch is, since it could not be moved. -/
  | conflict {branch : String} (found : IsDefaultBranch calls branch) (status : Nat) :
    IsWorded s calls (conflictWording branch status)

/-- A run that was listed stays so. -/
theorem IsListedRun.append {calls : List CallRecord} {run : WorkflowRun}
    (listed : IsListedRun calls run) (more : List CallRecord) :
    IsListedRun (calls ++ more) run := by
  obtain ⟨workflow, branch, runs, answered, member⟩ := listed
  exact ⟨workflow, branch, runs, answered.append more, member⟩

/-- A call that failed stays so. -/
theorem HasFailedWith.append {calls : List CallRecord} {fault : RemoteFault}
    (failed : HasFailedWith calls fault) (more : List CallRecord) :
    HasFailedWith (calls ++ more) fault := by
  obtain ⟨credentials, c, member⟩ := failed
  exact ⟨credentials, c, List.mem_append_left more member⟩

/-- A wording stays one after more calls. -/
theorem IsWorded.append {s : Settings} {calls : List CallRecord} {wording : Wording}
    (worded : IsWorded s calls wording) (more : List CallRecord) :
    IsWorded s (calls ++ more) wording := by
  cases worded with
  | plain text oneLine => exact .plain text oneLine
  | branch found among => exact .branch (found.append more) among
  | head found => exact .head (found.append more)
  | workflow answered listed => exact .workflow (answered.append more) listed
  | run listed among => exact .run (listed.append more) among
  | address listed own => exact .address (listed.append more) own
  | page repo run => exact .page repo run
  | runsPage repo => exact .runsPage repo
  | job answered listed among => exact .job (answered.append more) listed among
  | fault failed => exact .fault (failed.append more)
  | conflict found status => exact .conflict (found.append more) status

/-! ## Lines of faults -/

/-- A fault that makes a session fail is told in its wording, after a cross. -/
theorem message_cross {fault : DeployFault} {w : Wording} (fails : fault.level = .error)
    (same : w.message = fault.message) : ((plain "❌ ").append w).message = fault.line := by
  rw [message_append, message_plain, same, line_of_error fails]

/-- What is told of a call that was refused is its line. -/
theorem message_refusalWording (status : Nat) (payload : String) :
    (refusalWording status payload).message = (DeployFault.remote status payload).line :=
  message_cross rfl (message_quoting_last ..)

/-- What is told of a call that failed is its line. -/
theorem message_faultWording (fault : RemoteFault) :
    (faultWording fault).message = (DeployFault.ofRemote fault).line := by
  cases fault with
  | refused status payload => exact message_refusalWording status payload
  | conflict status payload => exact message_refusalWording status payload
  | unanswered message => exact message_cross rfl (message_quoting_last ..)
  | unreadable message => exact message_cross rfl (message_quoting_last ..)

/-- What is told of a branch that could not be moved is its line. -/
theorem message_conflictWording (branch : String) (status : Nat) :
    (conflictWording branch status).message = (DeployFault.conflict branch status).line := by
  refine message_cross rfl ((message_quoting ..).trans ?_)
  change _ = "Conflict: branch '" ++ _ ++ _ ++ _ ++ _
  simp only [String.append_assoc]

/-- What is said of credentials that are refused is one line. -/
theorem isOneLine_credentialFault (fault : CredentialFault) : IsOneLine fault.message := by
  cases fault with
  | tokenTooShort length =>
    change IsOneLine ("API token is too short (" ++ toString length ++ _ ++ _)
    exact isOneLine_append.mpr ⟨isOneLine_numbered length (isOneLine_ofList (by decide))
      (isOneLine_ofList (by decide)), isOneLine_ofList (by decide)⟩
  | tokenTooLong length =>
    change IsOneLine ("API token is too long (" ++ toString length ++ _)
    exact isOneLine_numbered length (isOneLine_ofList (by decide)) (isOneLine_ofList (by decide))
  | _ => exact isOneLine_ofList (by decide)

/-- The line of a fault is one line if its wording is. -/
theorem isOneLine_line {fault : DeployFault} (oneLine : IsOneLine fault.message) :
    IsOneLine fault.line := by
  refine isOneLine_append.mpr ⟨?_, oneLine⟩
  split <;> exact isOneLine_ofList (by decide)

end Pipewright
