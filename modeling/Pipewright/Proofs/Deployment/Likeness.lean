import Pipewright.Proofs.Alike
import Pipewright.Proofs.Deployment.Procedure

/-!
# Sessions that differ in a token

Calls carry credentials, and of these a session reads only the repository. Acts are alike when they
differ at most in the token of a call (`Act.Like`); then every stage goes alike with credentials of
the same repository, and so does a whole session with tokens that are checked with the same result
(`session_alike`).
-/
namespace Pipewright

open Deployment

/-- Which acts are alike: equal ones, and those that call the service about the same repository in
the same way. -/
inductive Act.Like : Dialogue.Likeness Act Act.Answer where
  /-- An act is like itself. -/
  | same (act : Act) : Like act act id
  /-- The same call with credentials for the same repository. -/
  | call {credentials other : Credentials} (repo : credentials.repo = other.repo) (c : Call) :
      Like (.call credentials c) (.call other c) id
  /-- The log of the same job with credentials for the same repository. -/
  | download {credentials other : Credentials} (repo : credentials.repo = other.repo)
      (job : UInt64) : Like (.download credentials job) (.download other job) id

/-- Whether two targets differ at most in the token. -/
def Target.Like (target other : Target) : Prop :=
  target.credentials.repo = other.credentials.repo ∧ target.branch = other.branch

namespace Procedure

variable {α β γ δ : Type} {same : α → β → Prop} {both : γ → δ → Prop}
  {credentials other : Credentials}

/-- Whether two procedures come to the same fault, or to results of which a relation holds. -/
def SameEnding (same : α → β → Prop) : Except DeployFault α → Except DeployFault β → Prop
  | .ok a, .ok b => same a b
  | .error fault, .error otherFault => fault = otherFault
  | _, _ => False

/-- Whether two procedures ask alike acts, as long as these are answered alike, and end in the same
way. -/
def Alike (same : α → β → Prop) (p : Procedure α) (q : Procedure β) : Prop :=
  Dialogue.Alike Act.Like (SameEnding same) p.run q.run

/-- Procedures that end at once with alike results go alike. -/
theorem alike_pure {a : α} {b : β} (results : same a b) :
    Alike same (pure a : Procedure α) (pure b) := .done results

/-- Procedures that stop at once with the same fault go alike. -/
theorem alike_stop (fault : DeployFault) : Alike same (stop fault) (stop fault) := .done rfl

/-- A procedure goes like itself. -/
theorem alike_refl (p : Procedure α) : Alike Eq p p := by
  refine Dialogue.Alike.refl Act.Like.same ?_ p.run
  rintro (fault | result)
  · exact rfl
  · exact rfl

/-- Procedures that go alike and then go on alike with alike results go alike as a whole. -/
theorem Alike.bind {p : Procedure α} {q : Procedure β} {next : α → Procedure γ}
    {nextOther : β → Procedure δ} (alike : Alike same p q)
    (later : ∀ a b, same a b → Alike both (next a) (nextOther b)) :
    Alike both (p >>= next) (q >>= nextOther) := by
  refine Dialogue.Alike.bind alike fun ending otherEnding ends => ?_
  match ending, otherEnding, ends with
  | .ok a, .ok b, results => exact later a b results
  | .error _, .error _, rfl => exact alike_stop _

/-- After procedures that go alike to the same result it is enough to go on alike with that. -/
theorem Alike.bind_eq {p q : Procedure α} {next : α → Procedure γ} {nextOther : α → Procedure δ}
    (alike : Alike Eq p q) (later : ∀ a, Alike both (next a) (nextOther a)) :
    Alike both (p >>= next) (q >>= nextOther) :=
  alike.bind fun a _ results => results ▸ later a

/-- After the same procedure it is enough to go on alike with the same result. -/
theorem alike_after (p : Procedure α) {next : α → Procedure γ} {nextOther : α → Procedure δ}
    (later : ∀ a, Alike both (next a) (nextOther a)) : Alike both (p >>= next) (p >>= nextOther) :=
  (alike_refl p).bind_eq later

/-- The same call with credentials for the same repository goes alike. -/
theorem alike_callOr (repo : credentials.repo = other.repo)
    (toFault : RemoteFault → DeployFault) (c : Call) :
    Alike Eq (callOr toFault credentials c) (callOr toFault other c) := by
  have asked : Alike Eq (ask (.call credentials c) : Procedure c.Result) (ask (.call other c)) :=
    .ask (.call repo c) fun _ => .done rfl
  refine asked.bind_eq fun answer => ?_
  cases answer with
  | ok reply => exact alike_refl _
  | error fault => exact alike_refl _

/-- The same call with credentials for the same repository goes alike. -/
theorem alike_call (repo : credentials.repo = other.repo) (c : Call) :
    Alike Eq (call credentials c) (call other c) := alike_callOr repo DeployFault.ofRemote c

end Procedure

namespace Deployment

open Procedure

variable {s : Settings} {credentials other : Credentials} {target twin : Target}

/-- With tokens that are checked alike, credentials are refused for the same reason or are for the
same repository. -/
theorem check_alike {token otherToken : String} (repo : String)
    (checked : checkToken token = checkToken otherToken) :
    (Credentials.check token repo).map Credentials.repo =
      (Credentials.check otherToken repo).map Credentials.repo := by
  have repo_check (token : String) : (Credentials.check token repo).map Credentials.repo =
      (checkToken token).bind fun _ => Slug.parse repo := by
    unfold Credentials.check
    split
    · simp [Except.bind, Except.map, *]
    · cases parsed : Slug.parse repo with
      | error fault => simp [Except.bind, Except.map, *]
      | ok slug => simp [Except.bind, Except.map, *]
  rw [repo_check, repo_check, checked]

/-- Checking the credentials goes alike with tokens that are checked alike. -/
theorem validate_alike {token otherToken : String} (repo workflow : String)
    (checked : checkToken token = checkToken otherToken) :
    Alike (fun credentials other : Credentials => credentials.repo = other.repo)
      (validate token repo workflow) (validate otherToken repo workflow) := by
  refine alike_after _ fun _ => ?_
  have results := check_alike repo checked
  cases first : Credentials.check token repo with
  | error fault =>
    cases second : Credentials.check otherToken repo with
    | error fault' =>
      rw [first, second] at results
      cases results
      exact alike_stop _
    | ok other =>
      rw [first, second] at results
      cases results
  | ok credentials =>
    cases second : Credentials.check otherToken repo with
    | error fault' =>
      rw [first, second] at results
      cases results
    | ok other =>
      rw [first, second] at results
      have repos : credentials.repo = other.repo := Except.ok.inj results
      dsimp only
      split
      · exact alike_stop _
      · exact alike_pure repos

/-- Looking up the default branch goes alike. -/
theorem findTarget_alike (repo : credentials.repo = other.repo) :
    Alike Target.Like (findTarget credentials) (findTarget other) := by
  refine alike_after _ fun _ => alike_after _ fun _ => ?_
  refine (alike_call repo .repository).bind_eq fun repository => ?_
  exact alike_after _ fun _ => alike_pure ⟨repo, rfl⟩

/-- Looking up the head and its tree goes alike. -/
theorem findBase_alike (targets : target.Like twin) :
    Alike Eq (findBase target) (findBase twin) := by
  obtain ⟨repo, branch⟩ := targets
  unfold findBase
  rw [branch]
  refine alike_after _ fun _ => alike_after _ fun _ => ?_
  refine (alike_call repo _).bind_eq fun head => ?_
  refine alike_after _ fun _ => (alike_call repo _).bind_eq fun tree => ?_
  exact alike_pure rfl

/-- Committing the document goes alike. -/
theorem publish_alike (targets : target.Like twin) (base : CommitBase) (workflow : String) :
    Alike Eq (publish s target base workflow) (publish s twin base workflow) := by
  obtain ⟨repo, branch⟩ := targets
  unfold publish
  rw [branch]
  refine alike_after _ fun _ => alike_after _ fun _ => ?_
  refine (alike_call repo _).bind_eq fun blob => ?_
  refine alike_after _ fun _ => (alike_call repo _).bind_eq fun tree => ?_
  refine alike_after _ fun _ => (alike_call repo _).bind_eq fun commit => ?_
  refine alike_after _ fun _ => (alike_callOr repo _ _).bind_eq fun moved => ?_
  exact alike_refl _

/-- Looking for the workflow goes alike. -/
theorem findWorkflow_alike (targets : target.Like twin) :
    Alike Eq (findWorkflow s target) (findWorkflow s twin) := by
  refine alike_after _ fun _ => alike_after _ fun _ => alike_after _ fun _ => ?_
  refine alike_after _ fun _ => (alike_call targets.1 _).bind_eq fun workflows => ?_
  exact alike_refl _

/-- Starting the workflow goes alike. -/
theorem trigger_alike (targets : target.Like twin) (workflow : RemoteWorkflow) :
    Alike Eq (trigger target workflow) (trigger twin workflow) := by
  obtain ⟨repo, branch⟩ := targets
  unfold trigger
  rw [branch]
  refine alike_after _ fun _ => alike_after _ fun _ => (alike_call repo _).bind_eq fun started => ?_
  exact alike_refl _

/-- Looking at the latest run goes alike. -/
theorem look_alike (targets : target.Like twin) (workflow : UInt64) :
    Alike Eq (look s target workflow) (look s twin workflow) := by
  obtain ⟨repo, branch⟩ := targets
  unfold look
  rw [branch]
  refine alike_after _ fun _ => (alike_call repo _).bind_eq fun runs => ?_
  exact alike_refl _

/-- A run is noted in the same way. -/
theorem note_eq (targets : target.Like twin) (latest : Option WorkflowRun) (run : WorkflowRun) :
    note s target latest run = note s twin latest run := by
  unfold note
  rw [targets.1]

/-- Looking at the run until it completes goes alike, by the looks that are left. -/
theorem poll_alike (targets : target.Like twin) (workflow : UInt64) (attempts : Nat)
    (latest : Option WorkflowRun) :
    Alike Eq (poll s target workflow attempts latest) (poll s twin workflow attempts latest) := by
  induction attempts generalizing latest with
  | zero => cases latest <;> exact alike_refl _
  | succ attempts ih =>
    refine (look_alike targets workflow).bind_eq fun shown => ?_
    cases shown with
    | none => exact ih latest
    | some run =>
      dsimp only
      rw [note_eq targets]
      refine alike_after _ fun _ => ?_
      split
      · exact alike_refl _
      · exact ih (some run)

/-- Waiting for the run goes alike. -/
theorem awaitRun_alike (targets : target.Like twin) (workflow : RemoteWorkflow) :
    Alike Eq (awaitRun s target workflow) (awaitRun s twin workflow) :=
  alike_after _ fun _ => alike_after _ fun _ => alike_after _ fun _ =>
    poll_alike targets workflow.id s.maxPollAttempts none

/-- Telling how a job went goes alike. -/
theorem tellJob_alike (repo : credentials.repo = other.repo) (skipping : Bool) (job : RunJob) :
    Alike Eq (tellJob credentials skipping job) (tellJob other skipping job) := by
  refine alike_after _ fun _ => alike_after _ fun _ => ?_
  split
  · exact alike_refl _
  · have asked : Alike Eq
        (ask (.download credentials job.id) : Procedure (Option (Call.jobLog job.id).Result))
        (ask (.download other job.id)) := .ask (.download repo job.id) fun _ => .done rfl
    refine alike_after _ fun _ => asked.bind_eq fun log => ?_
    rcases log with _ | (fault | log)
    · exact alike_refl _
    · exact alike_refl _
    · exact alike_refl _

/-- Telling how jobs went goes alike, job by job. -/
theorem tellJobs_alike (repo : credentials.repo = other.repo) (skipping : Bool)
    (jobs : List RunJob) :
    Alike Eq (tellJobs credentials skipping jobs) (tellJobs other skipping jobs) := by
  induction jobs generalizing skipping with
  | nil => exact alike_refl _
  | cons job jobs ih =>
    refine (tellJob_alike repo skipping job).bind_eq fun skipping => ?_
    exact ih skipping

/-- Looking at the jobs goes alike. -/
theorem collect_alike (targets : target.Like twin) (run : WorkflowRun) :
    Alike Eq (collect s target run) (collect s twin run) := by
  obtain ⟨repo, -⟩ := targets
  unfold collect
  rw [repo]
  refine alike_after _ fun _ => alike_after _ fun _ => (alike_call repo _).bind_eq fun jobs => ?_
  refine (tellJobs_alike repo false jobs).bind_eq fun _ => ?_
  exact alike_refl _

/-- What follows from the looks goes alike. -/
theorem conclude_alike (targets : target.Like twin) (polled : Polled) :
    Alike Eq (conclude s target polled) (conclude s twin polled) := by
  cases polled with
  | completed run => exact collect_alike targets run
  | unfinished run =>
    unfold conclude
    rw [targets.1]
    exact alike_refl _
  | unseen => exact alike_refl _

/-- A session goes alike with tokens that are checked alike. -/
theorem session_alike {token otherToken : String} (s : Settings) (repo workflow : String)
    (checked : checkToken token = checkToken otherToken) :
    Dialogue.Alike Act.Like Eq (session s token repo workflow)
      (session s otherToken repo workflow) := by
  have steps_alike : Alike Eq (steps s token repo workflow) (steps s otherToken repo workflow) := by
    refine alike_after _ fun _ => (validate_alike repo workflow checked).bind ?_
    intro credentials other repos
    refine (findTarget_alike repos).bind fun target twin targets => ?_
    refine (findBase_alike targets).bind_eq fun base => ?_
    refine (publish_alike targets base workflow).bind_eq fun _ => ?_
    refine (findWorkflow_alike targets).bind_eq fun registered => ?_
    refine (trigger_alike targets registered).bind_eq fun _ => ?_
    refine (awaitRun_alike targets registered).bind_eq fun polled => ?_
    exact conclude_alike targets polled
  refine Dialogue.Alike.bind steps_alike fun ending otherEnding ends => ?_
  match ending, otherEnding, ends with
  | .ok outcome, .ok _, rfl => exact .done rfl
  | .error fault, .error _, rfl => exact .ask (.same _) fun _ => .done rfl

end Deployment

end Pipewright
