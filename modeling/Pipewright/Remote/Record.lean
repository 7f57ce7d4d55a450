import Pipewright.Json.Record
import Pipewright.Json.Write

/-!
# Records of the service

What the service is sent and what it answers, as JSON objects whose fields stand in the order of
the structures here. Each record is written by its value and read from the outline of a text.
-/
namespace Pipewright

open Json

/-- A repository. -/
structure Repository where
  /-- The branch that workflows are published on. -/
  defaultBranch : String
  /-- Its owner and name as the service shows them. -/
  fullName : Option String
  deriving DecidableEq

namespace Repository

/-- The record as a value. -/
def toJson (r : Repository) : Json :=
  .object [("default_branch", .text r.defaultBranch), ("full_name", textOrNull r.fullName)]

/-- The fields of the record. -/
def fields : List (FieldReader Outline) :=
  [.required "default_branch" Reading.text,
    .withDefault "full_name" (Reading.optional Reading.text) none]

/-- Reads the record. -/
def reading : Reading Repository := fun node => do
  let (defaultBranch, fullName, _) ← Reading.record "Repository" fields node
  .ok ⟨defaultBranch, fullName⟩

end Repository

/-- A reference to a commit. -/
structure CommitRef where
  /-- The hash of the commit. -/
  sha : String
  deriving DecidableEq

namespace CommitRef

/-- The record as a value. -/
def toJson (r : CommitRef) : Json :=
  .object [("sha", .text r.sha)]

/-- The fields of the record. -/
def fields : List (FieldReader Outline) :=
  [.required "sha" Reading.text]

/-- Reads the record. -/
def reading : Reading CommitRef := fun node => do
  let (sha, _) ← Reading.record "CommitRef" fields node
  .ok ⟨sha⟩

end CommitRef

/-- A branch. -/
structure Branch where
  /-- Its name. -/
  name : String
  /-- Its head. -/
  commit : CommitRef
  deriving DecidableEq

namespace Branch

/-- The record as a value. -/
def toJson (r : Branch) : Json :=
  .object [("name", .text r.name), ("commit", r.commit.toJson)]

/-- The fields of the record. -/
def fields : List (FieldReader Outline) :=
  [.required "name" Reading.text, .required "commit" CommitRef.reading]

/-- Reads the record. -/
def reading : Reading Branch := fun node => do
  let (name, commit, _) ← Reading.record "Branch" fields node
  .ok ⟨name, commit⟩

end Branch

/-- A tree, blob or commit, of which only the hash matters. -/
structure GitObject where
  /-- Its hash. -/
  sha : String
  deriving DecidableEq

namespace GitObject

/-- The record as a value. -/
def toJson (r : GitObject) : Json :=
  .object [("sha", .text r.sha)]

/-- The fields of the record. -/
def fields : List (FieldReader Outline) :=
  [.required "sha" Reading.text]

/-- Reads the record. -/
def reading : Reading GitObject := fun node => do
  let (sha, _) ← Reading.record "GitObject" fields node
  .ok ⟨sha⟩

end GitObject

/-- A request for a blob. -/
structure CreateBlob where
  /-- The content, encoded. -/
  content : String
  /-- How it is encoded. -/
  encoding : String
  deriving DecidableEq

namespace CreateBlob

/-- The record as a value. -/
def toJson (r : CreateBlob) : Json :=
  .object [("content", .text r.content), ("encoding", .text r.encoding)]

/-- The fields of the record. -/
def fields : List (FieldReader Outline) :=
  [.required "content" Reading.text, .required "encoding" Reading.text]

/-- Reads the record. -/
def reading : Reading CreateBlob := fun node => do
  let (content, encoding, _) ← Reading.record "CreateBlob" fields node
  .ok ⟨content, encoding⟩

end CreateBlob

/-- A file of a tree. -/
structure TreeEntry where
  /-- Where it stands. -/
  path : String
  /-- Its mode. -/
  mode : String
  /-- The kind of object. -/
  kind : String
  /-- The hash of the object. -/
  sha : String
  deriving DecidableEq

namespace TreeEntry

/-- The record as a value. -/
def toJson (r : TreeEntry) : Json :=
  .object [("path", .text r.path), ("mode", .text r.mode), ("type", .text r.kind),
    ("sha", .text r.sha)]

/-- The fields of the record. -/
def fields : List (FieldReader Outline) :=
  [.required "path" Reading.text, .required "mode" Reading.text, .required "type" Reading.text,
    .required "sha" Reading.text]

/-- Reads the record. -/
def reading : Reading TreeEntry := fun node => do
  let (path, mode, kind, sha, _) ← Reading.record "TreeEntry" fields node
  .ok ⟨path, mode, kind, sha⟩

end TreeEntry

/-- A plain file that is not executable. -/
def TreeEntry.file (path sha : String) : TreeEntry := ⟨path, "100644", "blob", sha⟩

/-- A request for a tree. -/
structure CreateTree where
  /-- The hash of the tree it starts from. -/
  baseTree : String
  /-- The files put into it. -/
  entries : List TreeEntry
  deriving DecidableEq

namespace CreateTree

/-- The record as a value. -/
def toJson (r : CreateTree) : Json :=
  .object [("base_tree", .text r.baseTree), ("tree", .list (r.entries.map TreeEntry.toJson))]

/-- The fields of the record. -/
def fields : List (FieldReader Outline) :=
  [.required "base_tree" Reading.text, .required "tree" (Reading.list TreeEntry.reading)]

/-- Reads the record. -/
def reading : Reading CreateTree := fun node => do
  let (baseTree, entries, _) ← Reading.record "CreateTree" fields node
  .ok ⟨baseTree, entries⟩

end CreateTree

/-- A request for a commit. -/
structure CreateCommit where
  /-- Its message. -/
  message : String
  /-- The hash of its tree. -/
  tree : String
  /-- The hashes of its parents. -/
  parents : List String
  deriving DecidableEq

namespace CreateCommit

/-- The record as a value. -/
def toJson (r : CreateCommit) : Json :=
  .object [("message", .text r.message), ("tree", .text r.tree), ("parents", texts r.parents)]

/-- The fields of the record. -/
def fields : List (FieldReader Outline) :=
  [.required "message" Reading.text, .required "tree" Reading.text,
    .required "parents" (Reading.list Reading.text)]

/-- Reads the record. -/
def reading : Reading CreateCommit := fun node => do
  let (message, tree, parents, _) ← Reading.record "CreateCommit" fields node
  .ok ⟨message, tree, parents⟩

end CreateCommit

/-- A request to move a branch. -/
structure UpdateRef where
  /-- The hash of the new head. -/
  sha : String
  /-- Whether commits may be lost. -/
  force : Bool
  deriving DecidableEq

namespace UpdateRef

/-- The record as a value. -/
def toJson (r : UpdateRef) : Json :=
  .object [("sha", .text r.sha), ("force", .bool r.force)]

/-- The fields of the record. -/
def fields : List (FieldReader Outline) :=
  [.required "sha" Reading.text, .required "force" Reading.bool]

/-- Reads the record. -/
def reading : Reading UpdateRef := fun node => do
  let (sha, force, _) ← Reading.record "UpdateRef" fields node
  .ok ⟨sha, force⟩

end UpdateRef

/-- A workflow that the service knows. -/
structure RemoteWorkflow where
  /-- Its identifier. -/
  id : UInt64
  /-- Its name. -/
  name : String
  /-- The path of its document. -/
  path : String
  /-- Whether it is enabled. -/
  state : Option String
  deriving DecidableEq

namespace RemoteWorkflow

/-- The record as a value. -/
def toJson (r : RemoteWorkflow) : Json :=
  .object [("id", word r.id), ("name", .text r.name), ("path", .text r.path),
    ("state", textOrNull r.state)]

/-- The fields of the record. -/
def fields : List (FieldReader Outline) :=
  [.required "id" Reading.word, .required "name" Reading.text, .required "path" Reading.text,
    .withDefault "state" (Reading.optional Reading.text) none]

/-- Reads the record. -/
def reading : Reading RemoteWorkflow := fun node => do
  let (id, name, path, state, _) ← Reading.record "Workflow" fields node
  .ok ⟨id, name, path, state⟩

end RemoteWorkflow

/-- A page of the workflows of a repository. -/
structure WorkflowList where
  /-- The workflows on all pages. -/
  totalCount : UInt64
  /-- Those on this page. -/
  workflows : List RemoteWorkflow
  deriving DecidableEq

namespace WorkflowList

/-- The record as a value. -/
def toJson (r : WorkflowList) : Json :=
  .object [("total_count", word r.totalCount),
    ("workflows", .list (r.workflows.map RemoteWorkflow.toJson))]

/-- The fields of the record. -/
def fields : List (FieldReader Outline) :=
  [.withDefault "total_count" Reading.word 0,
    .required "workflows" (Reading.list RemoteWorkflow.reading)]

/-- Reads the record. -/
def reading : Reading WorkflowList := fun node => do
  let (totalCount, workflows, _) ← Reading.record "WorkflowList" fields node
  .ok ⟨totalCount, workflows⟩

end WorkflowList

/-- A request to start a workflow. -/
structure DispatchWorkflow where
  /-- The branch to run it on. -/
  ref : String
  deriving DecidableEq

namespace DispatchWorkflow

/-- The record as a value. -/
def toJson (r : DispatchWorkflow) : Json :=
  .object [("ref", .text r.ref)]

/-- The fields of the record. -/
def fields : List (FieldReader Outline) :=
  [.required "ref" Reading.text]

/-- Reads the record. -/
def reading : Reading DispatchWorkflow := fun node => do
  let (ref, _) ← Reading.record "DispatchWorkflow" fields node
  .ok ⟨ref⟩

end DispatchWorkflow

/-- A run of a workflow. -/
structure WorkflowRun where
  /-- Its identifier. -/
  id : UInt64
  /-- How far it is. -/
  status : String
  /-- How it ended. -/
  conclusion : Option String
  /-- The address of its page. -/
  htmlUrl : Option String
  deriving DecidableEq

namespace WorkflowRun

/-- The record as a value. -/
def toJson (r : WorkflowRun) : Json :=
  .object [("id", word r.id), ("status", .text r.status), ("conclusion", textOrNull r.conclusion),
    ("html_url", textOrNull r.htmlUrl)]

/-- The fields of the record. -/
def fields : List (FieldReader Outline) :=
  [.required "id" Reading.word, .required "status" Reading.text,
    .nullable "conclusion" Reading.text,
    .withDefault "html_url" (Reading.optional Reading.text) none]

/-- Reads the record. -/
def reading : Reading WorkflowRun := fun node => do
  let (id, status, conclusion, htmlUrl, _) ← Reading.record "WorkflowRun" fields node
  .ok ⟨id, status, conclusion, htmlUrl⟩

end WorkflowRun

/-- A page of the runs of a workflow, the latest first. -/
structure WorkflowRunList where
  /-- The runs on all pages. -/
  totalCount : UInt64
  /-- Those on this page. -/
  runs : List WorkflowRun
  deriving DecidableEq

namespace WorkflowRunList

/-- The record as a value. -/
def toJson (r : WorkflowRunList) : Json :=
  .object [("total_count", word r.totalCount),
    ("workflow_runs", .list (r.runs.map WorkflowRun.toJson))]

/-- The fields of the record. -/
def fields : List (FieldReader Outline) :=
  [.withDefault "total_count" Reading.word 0,
    .required "workflow_runs" (Reading.list WorkflowRun.reading)]

/-- Reads the record. -/
def reading : Reading WorkflowRunList := fun node => do
  let (totalCount, runs, _) ← Reading.record "WorkflowRunList" fields node
  .ok ⟨totalCount, runs⟩

end WorkflowRunList

/-- A job of a run. -/
structure RunJob where
  /-- Its identifier. -/
  id : UInt64
  /-- Its name. -/
  name : String
  /-- How far it is. -/
  status : String
  /-- How it ended. -/
  conclusion : Option String
  deriving DecidableEq

namespace RunJob

/-- The record as a value. -/
def toJson (r : RunJob) : Json :=
  .object [("id", word r.id), ("name", .text r.name), ("status", .text r.status),
    ("conclusion", textOrNull r.conclusion)]

/-- The fields of the record. -/
def fields : List (FieldReader Outline) :=
  [.required "id" Reading.word, .required "name" Reading.text, .required "status" Reading.text,
    .nullable "conclusion" Reading.text]

/-- Reads the record. -/
def reading : Reading RunJob := fun node => do
  let (id, name, status, conclusion, _) ← Reading.record "RunJob" fields node
  .ok ⟨id, name, status, conclusion⟩

end RunJob

/-- A page of the jobs of a run. -/
structure RunJobList where
  /-- The jobs on all pages. -/
  totalCount : UInt64
  /-- Those on this page. -/
  jobs : List RunJob
  deriving DecidableEq

namespace RunJobList

/-- The record as a value. -/
def toJson (r : RunJobList) : Json :=
  .object [("total_count", word r.totalCount), ("jobs", .list (r.jobs.map RunJob.toJson))]

/-- The fields of the record. -/
def fields : List (FieldReader Outline) :=
  [.withDefault "total_count" Reading.word 0, .required "jobs" (Reading.list RunJob.reading)]

/-- Reads the record. -/
def reading : Reading RunJobList := fun node => do
  let (totalCount, jobs, _) ← Reading.record "RunJobList" fields node
  .ok ⟨totalCount, jobs⟩

end RunJobList

end Pipewright
