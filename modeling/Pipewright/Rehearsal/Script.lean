import Pipewright.Remote.Call

/-!
# Scripted services

A script stands in for the service: for each endpoint it has a list of replies, which are given in
order, the last one again and again. An endpoint without replies answers as a service does on which
everything goes well.
-/
namespace Pipewright

/-- The name of the endpoint of a call. -/
def Call.endpoint : Call → String
  | repository => "get_repository"
  | branch _ => "get_branch"
  | tree _ => "get_tree"
  | createBlob _ => "create_blob"
  | createTree _ _ _ => "create_tree"
  | createCommit _ _ _ => "create_commit"
  | updateRef _ _ => "update_ref"
  | workflows => "list_workflows"
  | dispatch _ _ => "dispatch_workflow"
  | runs _ _ => "list_workflow_runs"
  | jobs _ => "list_run_jobs"
  | jobLog _ => "get_job_logs"

namespace Rehearsal

/-- The reply of a service on which everything goes well. -/
def usualReply : (c : Call) → c.Result
  | .repository => .ok ⟨"main", some "octo/hello"⟩
  | .branch name => .ok ⟨name, ⟨"4f2a9c1e8b7d6a5f4e3d2c1b0a9f8e7d6c5b4a39"⟩⟩
  | .tree _ => .ok ⟨"base-tree-sha"⟩
  | .createBlob _ => .ok ⟨"blob-sha"⟩
  | .createTree _ _ _ => .ok ⟨"new-tree-sha"⟩
  | .createCommit _ _ _ => .ok ⟨"new-commit-sha"⟩
  | .updateRef _ _ => .ok ()
  | .workflows =>
    .ok [⟨3, "Release", ".github/workflows/release.yml", none⟩,
      ⟨7, "CI Pipeline", ".github/workflows/visual-cicd-workflow.yml", none⟩]
  | .dispatch _ _ => .ok ()
  | .runs _ _ =>
    .ok [⟨100, "completed", some "success",
      some "https://github.com/octo/hello/actions/runs/100"⟩]
  | .jobs _ =>
    .ok [⟨1, "build", "completed", some "success"⟩, ⟨2, "test", "completed", some "success"⟩]
  | .jobLog _ => .ok "line one\n\n  line two  \n"

/-- A reply of a script. -/
structure Reply where
  /-- What it answers. -/
  result : (c : Call) → c.Result
  /-- Whether it first cancels every session under way. -/
  cancels : Bool
  /-- How long it takes, in milliseconds. -/
  delay : Nat

/-- The replies of each endpoint that has any. -/
abbrev Script := List (String × List Reply)

namespace Script

/-- The replies of an endpoint, and the script in which the first has been given unless it is the
last. -/
def next (endpoint : String) : Script → Option Reply × Script
  | [] => (none, [])
  | (name, replies) :: script =>
    if name = endpoint then
      match replies with
      | [] => (none, (name, []) :: script)
      | [reply] => (some reply, (name, [reply]) :: script)
      | reply :: replies => (some reply, (name, replies) :: script)
    else
      let (reply, script) := next endpoint script
      (reply, (name, replies) :: script)

end Script

end Rehearsal

end Pipewright
