import Mathlib.Data.List.Nodup
import Pipewright.Proofs.Lint.WellFormed
import Pipewright.Proofs.Workflow.Names
import Pipewright.Proofs.Workflow.NormalForm

/-!
# Keys of a document

The document of a pipeline is a mapping of mappings. Its sections, the entries of a job and of a
step, and the events under `on`, where triggers of one kind have been taken together, always have
keys of their own. The names of jobs do when the pipeline has no issues, but for numbers in base
eight or sixteen, of which several shapes are one number. Nothing is checked of the keys of
variables and inputs, so these have to be distinct by themselves (`Pipeline.hasDistinctKeys_iff`).
-/
namespace Pipewright

open Yaml Yaml.Node
open Scalar (radixNumber? readBack value_written)

/-! ## Events -/

/-- The kind of an event. -/
def Event.kind : Event → EventKind
  | push _ => .push
  | pullRequest _ => .pullRequest
  | schedule _ => .schedule
  | workflowDispatch => .workflowDispatch

/-- An event stands under the name of its kind. -/
theorem Event.value_entry (e : Event) : e.entry.1.value = .text e.kind.name := by
  cases e <;> exact value_word _ (by decide)

/-- A kind of event is known by its name. -/
theorem EventKind.name_inj {kind other : EventKind} (same : kind.name = other.name) :
    kind = other := by
  cases kind <;> cases other <;> first | rfl | exact absurd same (by decide)

/-- The event of a kind is of this kind. -/
theorem kind_of_eventOf {triggers : List Trigger} {kind : EventKind} {e : Event}
    (event : eventOf? triggers kind = some e) : e.kind = kind := by
  cases kind with
  | schedule =>
    rw [eventOf?] at event
    split at event
    · cases event
    · cases event
      rfl
  | _ =>
    cases event
    rfl

/-- The events of a pipeline stand under different keys. -/
theorem nodup_eventKeys (p : Pipeline) :
    ((Workflow.ofPipeline p).events.map fun e => e.entry.1.value).Nodup := by
  have key : ∀ kind value, ((eventOf? p.triggers kind).map fun e => e.entry.1.value) = some value →
      value = .text kind.name := by
    intro kind value found
    obtain ⟨e, event, rfl⟩ := Option.map_eq_some_iff.mp found
    rw [e.value_entry, kind_of_eventOf event]
  rw [Workflow.ofPipeline_eq, Pipeline.normalForm, List.map_filterMap]
  refine List.Nodup.filterMap (fun kind other value first second => ?_)
    (TriggerGroup.nodup_eraseDups _)
  have names := (key kind value first).symm.trans (key other value second)
  exact EventKind.name_inj (Value.text.inj names)

/-! ## Where keys may meet -/

/-- A list of names has no keys. -/
theorem hasDistinctKeys_namesNode (names : List String) : (namesNode names).HasDistinctKeys := by
  refine hasDistinctKeys_sequence.mpr fun item member => ?_
  obtain ⟨name, -, rfl⟩ := List.mem_map.mp member
  exact hasDistinctKeys_scalar

/-- What an event is limited to has distinct keys. -/
theorem Event.hasDistinctKeys_entry (e : Event) : e.entry.2.HasDistinctKeys := by
  have limited : ∀ branches, (Event.limits branches).HasDistinctKeys := by
    intro branches
    unfold Event.limits
    refine hasDistinctKeys_mapping.mpr ?_
    cases branches with
    | nil => simp
    | cons branch branches => simp [hasDistinctKeys_namesNode]
  cases e with
  | push branches => exact limited branches
  | pullRequest branches => exact limited branches
  | schedule crons =>
    cases crons with
    | nil => exact hasDistinctKeys_scalar
    | cons cron crons =>
      refine hasDistinctKeys_sequence.mpr fun item member => ?_
      obtain ⟨cron, -, rfl⟩ := List.mem_map.mp member
      exact hasDistinctKeys_mapping.mpr ⟨List.nodup_singleton _,
        List.forall_mem_singleton.mpr hasDistinctKeys_scalar⟩
  | workflowDispatch => exact hasDistinctKeys_mapping.mpr ⟨List.nodup_nil, nofun⟩

/-- Names with quoted texts have distinct keys when the names are read back as distinct ones. -/
theorem hasDistinctKeys_textEntries (entries : List (String × String)) :
    (Node.mapping (entries.map textEntry)).HasDistinctKeys ↔
      (entries.map fun entry => readBack entry.1).Nodup := by
  have keys : (entries.map textEntry).map (fun entry => entry.1.value) =
      entries.map fun entry => readBack entry.1 := by
    rw [List.map_map]
    exact List.map_congr_left fun entry _ => value_written entry.1
  have values : ∀ entry ∈ entries.map textEntry, entry.2.HasDistinctKeys := by
    intro entry member
    obtain ⟨source, -, rfl⟩ := List.mem_map.mp member
    exact hasDistinctKeys_scalar
  rw [hasDistinctKeys_mapping, keys]
  exact and_iff_left values

/-- A step has distinct keys when its inputs do. -/
theorem WorkflowStep.hasDistinctKeys_node (s : WorkflowStep) :
    s.node.HasDistinctKeys ↔ (s.inputs.map fun input => readBack input.1).Nodup := by
  rw [WorkflowStep.node, hasDistinctKeys_mapping, WorkflowStep.inputEntries,
    ← hasDistinctKeys_textEntries]
  cases s.inputs with
  | nil => simp [hasDistinctKeys_scalar, hasDistinctKeys_mapping]
  | cons input inputs => simp (disch := decide) [hasDistinctKeys_scalar, value_word]

/-- A job has distinct keys when its steps do. -/
theorem WorkflowJob.hasDistinctKeys_entry (j : WorkflowJob) :
    j.entry.2.HasDistinctKeys ↔
      ∀ s ∈ j.steps, (s.inputs.map fun input => readBack input.1).Nodup := by
  have keys : (j.entries.map fun entry => entry.1.value).Nodup := by
    cases condition : j.condition <;> cases needs : j.needs <;>
      simp (disch := decide) [WorkflowJob.entries, condition, needs, value_word]
  have steps : (Node.sequence (j.steps.map WorkflowStep.node)).HasDistinctKeys ↔
      ∀ s ∈ j.steps, (s.inputs.map fun input => readBack input.1).Nodup := by
    rw [hasDistinctKeys_sequence, List.forall_mem_map]
    exact forall₂_congr fun s _ => s.hasDistinctKeys_node
  rw [WorkflowJob.entry, hasDistinctKeys_mapping, and_iff_right keys, ← steps]
  cases condition : j.condition <;> cases needs : j.needs <;>
    simp [WorkflowJob.entries, condition, needs, quotedNode, hasDistinctKeys_scalar,
      hasDistinctKeys_namesNode]

/-- A workflow has distinct keys when its events, jobs, inputs and variables do. -/
theorem Workflow.hasDistinctKeys_node (w : Workflow) :
    w.node.HasDistinctKeys ↔ (w.events.map fun e => e.entry.1.value).Nodup ∧
      (w.jobs.map fun j => readBack j.name).Nodup ∧
      (∀ j ∈ w.jobs, ∀ s ∈ j.steps, (s.inputs.map fun input => readBack input.1).Nodup) ∧
      (w.env.map fun var => readBack var.1).Nodup := by
  have sections : (w.entries.map fun entry => entry.1.value).Nodup := by
    simp (disch := decide) [Workflow.entries, value_word]
  have events : (Node.mapping (w.events.map Event.entry)).HasDistinctKeys ↔
      (w.events.map fun e => e.entry.1.value).Nodup := by
    rw [hasDistinctKeys_mapping, List.map_map, List.forall_mem_map]
    exact and_iff_left fun e _ => e.hasDistinctKeys_entry
  have jobs : (Node.mapping (w.jobs.map WorkflowJob.entry)).HasDistinctKeys ↔
      (w.jobs.map fun j => readBack j.name).Nodup ∧
        ∀ j ∈ w.jobs, ∀ s ∈ j.steps, (s.inputs.map fun input => readBack input.1).Nodup := by
    have names : (w.jobs.map WorkflowJob.entry).map (fun entry => entry.1.value) =
        w.jobs.map fun j => readBack j.name := by
      rw [List.map_map]
      exact List.map_congr_left fun j _ => value_written j.name
    rw [hasDistinctKeys_mapping, names, List.forall_mem_map]
    exact and_congr_right fun _ => forall₂_congr fun j _ => j.hasDistinctKeys_entry
  rw [Workflow.node, hasDistinctKeys_mapping, and_iff_right sections]
  simp [Workflow.entries, hasDistinctKeys_scalar, events, jobs, hasDistinctKeys_textEntries,
    and_assoc]

/-! ## Pipelines -/

/-- Two texts are read back as one value only when they are the same or two shapes of one number. -/
theorem readBack_eq_iff {text other : String} :
    readBack text = readBack other ↔
      text = other ∨ ∃ n, radixNumber? text = some n ∧ radixNumber? other = some n := by
  unfold readBack
  constructor
  · intro same
    cases first : radixNumber? text with
    | none =>
      cases second : radixNumber? other with
      | none =>
        rw [first, second] at same
        exact .inl (Value.text.inj same)
      | some m =>
        rw [first, second] at same
        cases same
    | some n =>
      cases second : radixNumber? other with
      | none =>
        rw [first, second] at same
        cases same
      | some m =>
        rw [first, second] at same
        exact .inr ⟨n, rfl, congrArg some (Int.ofNat.inj (Value.int.inj same)).symm⟩
  · rintro (rfl | ⟨n, first, second⟩)
    · rfl
    · rw [first, second]

/-- Distinct texts are read back as distinct values unless two are shapes of one number. -/
theorem nodup_readBack_iff {texts : List String} (distinct : texts.Nodup) :
    (texts.map readBack).Nodup ↔
      ∀ text ∈ texts, ∀ other ∈ texts, ∀ n, radixNumber? text = some n →
        radixNumber? other = some n → text = other := by
  constructor
  · intro nodup text isText other isOther n first second
    exact List.inj_on_of_nodup_map nodup isText isOther
      (readBack_eq_iff.mpr (.inr ⟨n, first, second⟩))
  · intro apart
    refine distinct.map_on fun text isText other isOther same => ?_
    rcases readBack_eq_iff.mp same with equal | ⟨n, first, second⟩
    · exact equal
    · exact apart text isText other isOther n first second

/-- The keys of a step's inputs. -/
def Step.keys (s : Step) : List String :=
  s.args.toList.map (fun _ => "args") ++ s.inputs.map StepInput.key

/-- The inputs of a step in a workflow have its keys. -/
theorem Step.inputs_ofStep (s : Step) :
    ((WorkflowStep.ofStep s).inputs.map fun input => readBack input.1) = s.keys.map readBack := by
  rw [WorkflowStep.ofStep, Step.keys, List.map_append, List.map_append, List.map_map,
    List.map_map, List.map_map, List.map_map]
  rfl

/-- The document of a pipeline without issues has distinct keys just when no two of its jobs have
names of one number, and the keys of each step and those of the variables are read back as distinct
ones. -/
theorem Pipeline.hasDistinctKeys_iff (p : Pipeline) (clean : p.issues = []) :
    ∃ node, Yaml.read (Pipeline.document (some p)) = some node ∧
      (node.HasDistinctKeys ↔
        (∀ i ∈ p.jobs, ∀ j ∈ p.jobs, ∀ n, radixNumber? i.name = some n →
          radixNumber? j.name = some n → i.name = j.name) ∧
        (∀ j ∈ p.jobs, ∀ s ∈ j.steps, (s.keys.map readBack).Nodup) ∧
        (p.env.map fun var => readBack var.key).Nodup) := by
  have distinct : (p.jobs.map Job.name).Nodup := by
    rw [Pipeline.issues, List.append_eq_nil_iff, List.append_eq_nil_iff] at clean
    exact (Lint.nameIssues_eq_nil_iff.mp clean.1.1).2.1
  have jobs : ((Workflow.ofPipeline p).jobs.map fun j => readBack j.name) =
      (p.jobs.map Job.name).map readBack := by
    rw [Workflow.ofPipeline, List.map_map, List.map_map]
    rfl
  have inputs : (∀ j ∈ (Workflow.ofPipeline p).jobs, ∀ s ∈ j.steps,
        (s.inputs.map fun input => readBack input.1).Nodup) ↔
      ∀ j ∈ p.jobs, ∀ s ∈ j.steps, (s.keys.map readBack).Nodup := by
    simp only [Workflow.ofPipeline, WorkflowJob.ofJob, List.forall_mem_map, Step.inputs_ofStep]
  have env : ((Workflow.ofPipeline p).env.map fun var => readBack var.1) =
      p.env.map fun var => readBack var.key := by
    rw [Workflow.ofPipeline, List.map_map]
    rfl
  refine ⟨(Workflow.ofPipeline p).node, Workflow.read_document _, ?_⟩
  rw [Workflow.hasDistinctKeys_node, and_iff_right (nodup_eventKeys p), jobs, inputs, env,
    nodup_readBack_iff distinct]
  simp only [List.forall_mem_map]

/-- A pipeline with two variables of one key. -/
def twiceDefined : Pipeline := ⟨"ci", false, [.env ⟨"LEVEL", "1"⟩, .env ⟨"LEVEL", "1"⟩]⟩

/-- A pipeline may have no issues and yet a document with a key twice. -/
theorem twiceDefined_repeats_key :
    twiceDefined.issues = [] ∧ ∃ node,
      Yaml.read (Pipeline.document (some twiceDefined)) = some node ∧ ¬node.HasDistinctKeys := by
  refine ⟨by decide, _, Workflow.read_document _, ?_⟩
  unfold Node.HasDistinctKeys
  decide +kernel

/-- A pipeline with keys of every sort. -/
def onceDefined : Pipeline :=
  ⟨"ci", false, [.trigger ⟨"push", ["main"], none⟩, .trigger ⟨"push", [], none⟩,
    .job "build" "" false [] none [.step ⟨"compile", some "-O2", [⟨"path", "src"⟩]⟩],
    .job "test" "" false ["build"] none [.step ⟨"run", none, []⟩],
    .env ⟨"LEVEL", "1"⟩, .env ⟨"0x1F", "2"⟩]⟩

/-- A pipeline without issues whose document has distinct keys. -/
theorem onceDefined_has_distinct_keys :
    onceDefined.issues = [] ∧ ∃ node,
      Yaml.read (Pipeline.document (some onceDefined)) = some node ∧ node.HasDistinctKeys := by
  have clean : onceDefined.issues = [] := by decide
  obtain ⟨node, read, distinct⟩ := onceDefined.hasDistinctKeys_iff clean
  refine ⟨clean, node, read, distinct.mpr ⟨?_, ?_, ?_⟩⟩
  · intro i isJob j isOther n first second
    have named : radixNumber? i.name = none :=
      (by decide : ∀ i ∈ onceDefined.jobs, radixNumber? i.name = none) i isJob
    rw [named] at first
    cases first
  · decide +kernel
  · decide +kernel

end Pipewright
