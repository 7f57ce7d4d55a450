import Mathlib.Data.List.Induction
import Pipewright.Proofs.Workflow.Document

/-!
# Normal forms of pipelines

The normal form of a pipeline is what it means, stated without grouping triggers one by one: the
kinds of its events in the order in which they first occur, each with the branches or the times of
all triggers of its kind, and its jobs and their steps part by part. A generated workflow says just
that (`Workflow.ofPipeline_eq`), so pipelines of the same normal form are those of the same document
(`Pipeline.document_eq_iff`).
-/
namespace Pipewright

/-- The kinds of event that triggers name, in the order in which they first occur. -/
def kindsOf (triggers : List Trigger) : List EventKind :=
  (triggers.filterMap Trigger.kind?).eraseDups

/-- The triggers of a kind. -/
def triggersOf (triggers : List Trigger) (kind : EventKind) : List Trigger :=
  triggers.filter fun t => t.kind? = some kind

/-- A kind occurs when there is a trigger of this kind. -/
theorem mem_kindsOf_iff {triggers : List Trigger} {kind : EventKind} :
    kind ∈ kindsOf triggers ↔ ∃ t, t ∈ triggersOf triggers kind := by
  simp [kindsOf, triggersOf]

/-- The branches of the triggers of a kind, in the order in which they first occur. -/
def branchesOf (triggers : List Trigger) (kind : EventKind) : List String :=
  ((triggersOf triggers kind).flatMap Trigger.branches).eraseDups

/-- The times of the triggers of a kind, in order. -/
def cronsOf (triggers : List Trigger) (kind : EventKind) : List String :=
  (triggersOf triggers kind).filterMap Trigger.cron

/-- The event of a kind, if the triggers of this kind say anything: a schedule needs a time. -/
def eventOf? (triggers : List Trigger) : EventKind → Option Event
  | .push => some (.push (branchesOf triggers .push))
  | .pullRequest => some (.pullRequest (branchesOf triggers .pullRequest))
  | .schedule =>
    if cronsOf triggers .schedule = [] then none
    else some (.schedule (cronsOf triggers .schedule))
  | .workflowDispatch => some .workflowDispatch

/-- What a step means: its arguments are an input like the others, and the first of them. -/
def Step.normalForm (s : Step) : WorkflowStep where
  name := s.name
  inputs :=
    let others := s.inputs.map fun i => (i.key, i.value)
    match s.args with
    | some args => ("args", args) :: others
    | none => others

/-- What a job means. -/
def Job.normalForm (j : Job) : WorkflowJob where
  name := j.name
  description := j.description
  continueOnError := j.continueOnError
  condition := j.condition
  steps := j.steps.map Step.normalForm
  needs := j.needs

/-- What a pipeline means. -/
def Pipeline.normalForm (p : Pipeline) : Workflow where
  name := p.name
  concurrent := p.concurrent
  events := (kindsOf p.triggers).filterMap (eventOf? p.triggers)
  jobs := p.jobs.map Job.normalForm
  env := p.env.map fun v => (v.key, v.value)

namespace TriggerGroup

variable {triggers : List Trigger} {kind : EventKind} {t : Trigger}

/-- The first occurrences with one item more: it is added unless it has occurred. -/
theorem eraseDups_append_one {α : Type} [DecidableEq α] (items : List α) (item : α) :
    (items ++ [item]).eraseDups =
      if item ∈ items then items.eraseDups else items.eraseDups ++ [item] := by
  rw [List.eraseDups_append]
  by_cases again : item ∈ items
  · simp [List.cons_removeAll, again]
  · simp [List.cons_removeAll, again, List.eraseDups_cons]

/-- Uniting items with first occurrences gives the first occurrences of all of them. -/
theorem unite_eraseDups (items more : List String) :
    unite items.eraseDups more = (items ++ more).eraseDups := by
  induction more generalizing items with
  | nil => rw [unite, List.append_nil]
  | cons item more ih =>
    have next : (if item ∈ items.eraseDups then items.eraseDups
        else items.eraseDups ++ [item]) = (items ++ [item]).eraseDups := by
      rw [eraseDups_append_one]
      simp only [List.mem_eraseDups]
    rw [unite, next, ih, List.append_assoc]
    rfl

/-- The group of all triggers of a kind. -/
def whole (triggers : List Trigger) (kind : EventKind) : TriggerGroup :=
  ⟨kind, branchesOf triggers kind, cronsOf triggers kind⟩

/-- One more trigger is put into the group of its kind. -/
theorem whole_append_same (named : t.kind? = some kind) :
    whole (triggers ++ [t]) kind = (whole triggers kind).push t := by
  have all : triggersOf (triggers ++ [t]) kind = triggersOf triggers kind ++ [t] := by
    simp [triggersOf, named]
  have branches : branchesOf (triggers ++ [t]) kind =
      unite (branchesOf triggers kind) t.branches := by
    rw [branchesOf, branchesOf, unite_eraseDups, all, List.flatMap_append]
    simp
  have crons : cronsOf (triggers ++ [t]) kind = cronsOf triggers kind ++ t.cron.toList := by
    rw [cronsOf, cronsOf, all, List.filterMap_append]
    cases cron : t.cron with
    | none => simp [cron]
    | some time => simp [cron]
  rw [whole, branches, crons]
  rfl

/-- One more trigger leaves the groups of other kinds as they are. -/
theorem whole_append_other (other : t.kind? ≠ some kind) :
    whole (triggers ++ [t]) kind = whole triggers kind := by
  have all : triggersOf (triggers ++ [t]) kind = triggersOf triggers kind := by
    simp [triggersOf, other]
  rw [whole, branchesOf, cronsOf, all]
  rfl

/-- First occurrences are distinct. -/
theorem nodup_eraseDups {α : Type} [DecidableEq α] (items : List α) : items.eraseDups.Nodup := by
  induction items using List.reverseRecOn with
  | nil => exact List.nodup_nil
  | append_singleton items item ih =>
    rw [eraseDups_append_one]
    by_cases again : item ∈ items
    · rwa [if_pos again]
    · rw [if_neg again]
      refine List.nodup_append.mpr ⟨ih, by simp, fun other member last isLast same => ?_⟩
      rw [List.mem_singleton.mp isLast] at same
      exact again (same ▸ List.mem_eraseDups.mp member)

/-- Without a trigger of a kind, its group is empty. -/
theorem whole_eq_empty (unnamed : kind ∉ kindsOf triggers) : whole triggers kind = empty kind := by
  have none : triggersOf triggers kind = [] := by
    refine List.filter_eq_nil_iff.mpr fun t member named => unnamed ?_
    exact List.mem_eraseDups.mpr (List.mem_filterMap.mpr ⟨t, member, of_decide_eq_true named⟩)
  rw [whole, branchesOf, cronsOf, none]
  rfl

/-- A trigger that is put in changes the group of its kind, or makes it. -/
theorem insert_wholes {kinds : List EventKind} (distinct : kinds.Nodup)
    (named : t.kind? = some kind) (unnamed : kind ∉ kinds → whole triggers kind = empty kind) :
    insert kind t (kinds.map (whole triggers)) =
      (if kind ∈ kinds then kinds else kinds ++ [kind]).map (whole (triggers ++ [t])) := by
  have others : ∀ kinds : List EventKind, kind ∉ kinds →
      kinds.map (whole (triggers ++ [t])) = kinds.map (whole triggers) := by
    intro kinds absent
    refine List.map_congr_left fun other member => whole_append_other fun same => ?_
    rw [named, Option.some.injEq] at same
    exact absent (same ▸ member)
  induction kinds with
  | nil =>
    rw [if_neg (List.not_mem_nil), List.map_nil, insert, List.nil_append, List.map_cons,
      List.map_nil, whole_append_same named, unnamed List.not_mem_nil]
  | cons first kinds ih =>
    obtain ⟨absent, distinct⟩ := List.nodup_cons.mp distinct
    rw [List.map_cons, insert]
    by_cases same : first = kind
    · have apart : kind ∉ kinds := same ▸ absent
      have isFirst : (whole triggers first).kind = kind := same
      rw [if_pos isFirst, if_pos (same ▸ List.mem_cons_self), List.map_cons, others kinds apart,
        same, whole_append_same named]
    · have isOther : (whole triggers first).kind ≠ kind := same
      have member_iff : kind ∈ first :: kinds ↔ kind ∈ kinds := by
        simp [Ne.symm same]
      have apart : t.kind? ≠ some first := by
        rw [named]
        exact fun equal => same (Option.some.inj equal).symm
      rw [if_neg isOther, ih distinct fun late => unnamed (mt member_iff.mp late),
        ← whole_append_other apart]
      by_cases late : kind ∈ kinds
      · rw [if_pos late, if_pos (member_iff.mpr late), List.map_cons]
      · rw [if_neg late, if_neg (mt member_iff.mp late), List.cons_append, List.map_cons]

/-- Putting triggers in one after another makes the groups of the kinds of all of them. -/
theorem insertAll_wholes (past later : List Trigger) :
    insertAll ((kindsOf past).map (whole past)) later =
      (kindsOf (past ++ later)).map (whole (past ++ later)) := by
  -- The groups so far are those of the triggers so far, and each trigger moves the border by one.
  induction later generalizing past with
  | nil => rw [insertAll, List.append_nil]
  | cons t later ih =>
    have next : insertAll ((kindsOf past).map (whole past)) (t :: later) =
        insertAll ((kindsOf (past ++ [t])).map (whole (past ++ [t]))) later := by
      cases named : t.kind? with
      | none =>
        have kinds : kindsOf (past ++ [t]) = kindsOf past := by
          simp [kindsOf, named]
        have wholes : whole (past ++ [t]) = whole past :=
          funext fun kind => whole_append_other (by simp [named])
        rw [insertAll, named, kinds, wholes]
      | some kind =>
        have kinds : kindsOf (past ++ [t]) =
            if kind ∈ kindsOf past then kindsOf past else kindsOf past ++ [kind] := by
          simp only [kindsOf, List.filterMap_append, List.filterMap_cons, named, List.filterMap_nil,
            eraseDups_append_one, List.mem_eraseDups]
        have distinct : (kindsOf past).Nodup := nodup_eraseDups _
        have inserted := insert_wholes distinct named fun unnamed => whole_eq_empty unnamed
        rw [insertAll, named, kinds, ← inserted]
    rw [next, ih, List.append_assoc]
    rfl

/-- The events of the groups of some triggers are those of their kinds. -/
theorem events_ofTriggers (triggers : List Trigger) :
    (ofTriggers triggers).map event = (kindsOf triggers).filterMap (eventOf? triggers) := by
  have one : ∀ kind, eventOf? triggers kind =
      if (whole triggers kind).isHeard then some (whole triggers kind).event else none := by
    intro kind
    cases kind with
    | schedule =>
      by_cases silent : cronsOf triggers .schedule = []
      · simp [eventOf?, isHeard, whole, silent]
      · simp [eventOf?, isHeard, whole, event, silent]
    | _ => rfl
  have groups := insertAll_wholes [] triggers
  rw [List.nil_append] at groups
  rw [ofTriggers, show insertAll [] triggers = _ from groups]
  generalize kindsOf triggers = kinds
  induction kinds with
  | nil => rfl
  | cons kind kinds ih =>
    rw [List.map_cons, List.filter_cons, List.filterMap_cons, one]
    by_cases heard : (whole triggers kind).isHeard = true
    · rw [if_pos heard, if_pos heard, List.map_cons, ih]
    · rw [if_neg heard, if_neg heard, ih]

end TriggerGroup

/-- What a step says is its normal form. -/
theorem WorkflowStep.ofStep_eq (s : Step) : WorkflowStep.ofStep s = s.normalForm := by
  rw [WorkflowStep.ofStep, Step.normalForm]
  cases s.args with
  | some args => rfl
  | none => rfl

/-- What a job says is its normal form. -/
theorem WorkflowJob.ofJob_eq (j : Job) : WorkflowJob.ofJob j = j.normalForm := by
  have steps : j.steps.map WorkflowStep.ofStep = j.steps.map Step.normalForm :=
    List.map_congr_left fun s _ => WorkflowStep.ofStep_eq s
  rw [WorkflowJob.ofJob, steps, Job.normalForm]

/-- What a pipeline says is its normal form. -/
theorem Workflow.ofPipeline_eq (p : Pipeline) : Workflow.ofPipeline p = p.normalForm := by
  have jobs : p.jobs.map WorkflowJob.ofJob = p.jobs.map Job.normalForm :=
    List.map_congr_left fun j _ => WorkflowJob.ofJob_eq j
  rw [Workflow.ofPipeline, TriggerGroup.events_ofTriggers, jobs, Pipeline.normalForm]

/-- Two pipelines have the same document just when they have the same normal form. -/
theorem Pipeline.document_eq_iff (p q : Pipeline) :
    Pipeline.document (some p) = Pipeline.document (some q) ↔ p.normalForm = q.normalForm := by
  rw [← Workflow.ofPipeline_eq, ← Workflow.ofPipeline_eq]
  exact ⟨Workflow.document_inj, congrArg Workflow.document⟩

end Pipewright
