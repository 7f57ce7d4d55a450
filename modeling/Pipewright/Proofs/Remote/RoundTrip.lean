import Pipewright.Proofs.Json.Recovery
import Pipewright.Remote.Record

/-!
# Records of the service are read back

Each record that the service is sent or answers is read back from what it was written as: its
fields are written by the names and in the order in which they are read, and each by a value that
its reading takes.
-/
namespace Pipewright

open Json

/-- A repository is read back. -/
theorem Repository.conveys (r : Repository) : Conveys reading r.toJson r :=
  conveys_record (by decide)
    (.cons (conveys_text _) (.cons (conveys_textOrNull _) .nil)) rfl

/-- A reference to a commit is read back. -/
theorem CommitRef.conveys (r : CommitRef) : Conveys reading r.toJson r :=
  conveys_record (by decide)
    (.cons (conveys_text _) .nil) rfl

/-- A branch is read back. -/
theorem Branch.conveys (r : Branch) : Conveys reading r.toJson r :=
  conveys_record (by decide)
    (.cons (conveys_text _) (.cons (CommitRef.conveys _) .nil)) rfl

/-- A tree, blob or commit is read back. -/
theorem GitObject.conveys (r : GitObject) : Conveys reading r.toJson r :=
  conveys_record (by decide)
    (.cons (conveys_text _) .nil) rfl

/-- A request for a blob is read back. -/
theorem CreateBlob.conveys (r : CreateBlob) : Conveys reading r.toJson r :=
  conveys_record (by decide)
    (.cons (conveys_text _) (.cons (conveys_text _) .nil)) rfl

/-- A file of a tree is read back. -/
theorem TreeEntry.conveys (r : TreeEntry) : Conveys reading r.toJson r :=
  conveys_record (by decide)
    (.cons (conveys_text _) (.cons (conveys_text _) (.cons (conveys_text _)
      (.cons (conveys_text _) .nil)))) rfl

/-- A request for a tree is read back. -/
theorem CreateTree.conveys (r : CreateTree) : Conveys reading r.toJson r :=
  conveys_record (by decide)
    (.cons (conveys_text _) (.cons (conveys_list fun item _ => TreeEntry.conveys item) .nil)) rfl

/-- A request for a commit is read back. -/
theorem CreateCommit.conveys (r : CreateCommit) : Conveys reading r.toJson r :=
  conveys_record (by decide)
    (.cons (conveys_text _) (.cons (conveys_text _)
      (.cons (conveys_list fun item _ => conveys_text item) .nil))) rfl

/-- A request to move a branch is read back. -/
theorem UpdateRef.conveys (r : UpdateRef) : Conveys reading r.toJson r :=
  conveys_record (by decide)
    (.cons (conveys_text _) (.cons (conveys_bool _) .nil)) rfl

/-- A workflow that the service knows is read back. -/
theorem RemoteWorkflow.conveys (r : RemoteWorkflow) : Conveys reading r.toJson r :=
  conveys_record (by decide)
    (.cons (conveys_word _) (.cons (conveys_text _) (.cons (conveys_text _)
      (.cons (conveys_textOrNull _) .nil)))) rfl

/-- A page of workflows is read back. -/
theorem WorkflowList.conveys (r : WorkflowList) : Conveys reading r.toJson r :=
  conveys_record (by decide)
    (.cons (conveys_word _)
      (.cons (conveys_list fun item _ => RemoteWorkflow.conveys item) .nil)) rfl

/-- A request to start a workflow is read back. -/
theorem DispatchWorkflow.conveys (r : DispatchWorkflow) : Conveys reading r.toJson r :=
  conveys_record (by decide)
    (.cons (conveys_text _) .nil) rfl

/-- A run of a workflow is read back. -/
theorem WorkflowRun.conveys (r : WorkflowRun) : Conveys reading r.toJson r :=
  conveys_record (by decide)
    (.cons (conveys_word _) (.cons (conveys_text _) (.cons (conveys_textOrNull _)
      (.cons (conveys_textOrNull _) .nil)))) rfl

/-- A page of runs is read back. -/
theorem WorkflowRunList.conveys (r : WorkflowRunList) : Conveys reading r.toJson r :=
  conveys_record (by decide)
    (.cons (conveys_word _) (.cons (conveys_list fun item _ => WorkflowRun.conveys item) .nil)) rfl

/-- A job of a run is read back. -/
theorem RunJob.conveys (r : RunJob) : Conveys reading r.toJson r :=
  conveys_record (by decide)
    (.cons (conveys_word _) (.cons (conveys_text _) (.cons (conveys_text _)
      (.cons (conveys_textOrNull _) .nil)))) rfl

/-- A page of jobs is read back. -/
theorem RunJobList.conveys (r : RunJobList) : Conveys reading r.toJson r :=
  conveys_record (by decide)
    (.cons (conveys_word _) (.cons (conveys_list fun item _ => RunJob.conveys item) .nil)) rfl

end Pipewright
