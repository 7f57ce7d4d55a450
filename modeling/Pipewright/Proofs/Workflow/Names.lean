import Pipewright.Proofs.Workflow.Reading

/-!
# Names are read back

The names of a workflow are those of the workflow itself, its jobs and steps, and besides these the
keys of inputs and variables, the branches of events and the needs of jobs. Each of them is found
in the document at the place where it belongs, and it is the name that was written: a text, unless
it has the shape of a number in base eight or sixteen (`Pipeline.names_read_back`).
-/
namespace Pipewright

open Yaml

/-- The names of a step. -/
structure StepNames (α : Type) where
  /-- Its own. -/
  name : α
  /-- The keys of its inputs. -/
  inputs : List α
  deriving DecidableEq

/-- The names of a job. -/
structure JobNames (α : Type) where
  /-- Its own. -/
  name : α
  /-- Those of its steps. -/
  steps : List (StepNames α)
  /-- Those that it needs. -/
  needs : List α
  deriving DecidableEq

/-- The names of a workflow. -/
structure WorkflowNames (α : Type) where
  /-- Its own. -/
  name : α
  /-- The branches of its events. -/
  branches : List (List α)
  /-- Those of its jobs. -/
  jobs : List (JobNames α)
  /-- The keys of its variables. -/
  env : List α
  deriving DecidableEq

section Map

variable {α β : Type} (f : α → β)

/-- Changes the names of a step. -/
def StepNames.map (names : StepNames α) : StepNames β := ⟨f names.name, names.inputs.map f⟩

/-- Changes the names of a job. -/
def JobNames.map (names : JobNames α) : JobNames β :=
  ⟨f names.name, names.steps.map (StepNames.map f), names.needs.map f⟩

/-- Changes the names of a workflow. -/
def WorkflowNames.map (names : WorkflowNames α) : WorkflowNames β :=
  ⟨f names.name, names.branches.map (List.map f), names.jobs.map (JobNames.map f),
    names.env.map f⟩

/-- The names in the names of a step. -/
def StepNames.all (names : StepNames α) : List α := names.name :: names.inputs

/-- The names in the names of a job. -/
def JobNames.all (names : JobNames α) : List α :=
  names.name :: (names.steps.flatMap StepNames.all ++ names.needs)

/-- The names in the names of a workflow. -/
def WorkflowNames.all (names : WorkflowNames α) : List α :=
  names.name :: (names.branches.flatten ++ names.jobs.flatMap JobNames.all ++ names.env)

variable {f} {g : α → β}

/-- Two changes agree on a step when they do on all of its names. -/
theorem StepNames.map_eq_map_iff (names : StepNames α) :
    names.map f = names.map g ↔ ∀ name ∈ names.all, f name = g name := by
  rw [StepNames.map, StepNames.map, StepNames.mk.injEq, List.map_inj_left, StepNames.all,
    List.forall_mem_cons]

/-- Two changes agree on a job when they do on all of its names. -/
theorem JobNames.map_eq_map_iff (names : JobNames α) :
    names.map f = names.map g ↔ ∀ name ∈ names.all, f name = g name := by
  have steps : names.steps.map (StepNames.map f) = names.steps.map (StepNames.map g) ↔
      ∀ name ∈ names.steps.flatMap StepNames.all, f name = g name := by
    rw [List.map_inj_left, List.forall_mem_flatMap]
    exact forall₂_congr fun step _ => step.map_eq_map_iff
  rw [JobNames.map, JobNames.map, JobNames.mk.injEq, steps, List.map_inj_left, JobNames.all,
    List.forall_mem_cons, List.forall_mem_append]

/-- Two changes agree on a workflow when they do on all of its names. -/
theorem WorkflowNames.map_eq_map_iff (names : WorkflowNames α) :
    names.map f = names.map g ↔ ∀ name ∈ names.all, f name = g name := by
  have branches : names.branches.map (List.map f) = names.branches.map (List.map g) ↔
      ∀ name ∈ names.branches.flatten, f name = g name := by
    rw [List.map_inj_left, List.forall_mem_flatten]
    exact forall₂_congr fun list _ => List.map_inj_left
  have jobs : names.jobs.map (JobNames.map f) = names.jobs.map (JobNames.map g) ↔
      ∀ name ∈ names.jobs.flatMap JobNames.all, f name = g name := by
    rw [List.map_inj_left, List.forall_mem_flatMap]
    exact forall₂_congr fun job _ => job.map_eq_map_iff
  rw [WorkflowNames.map, WorkflowNames.map, WorkflowNames.mk.injEq, branches, jobs,
    List.map_inj_left, WorkflowNames.all, List.forall_mem_cons, List.forall_mem_append,
    List.forall_mem_append, and_assoc]

end Map

/-! ## Names as authored -/

/-- The branches that an event is limited to. -/
def Event.branches : Event → List String
  | push branches => branches
  | pullRequest branches => branches
  | schedule _ => []
  | workflowDispatch => []

/-- The names of a step. -/
def WorkflowStep.names (s : WorkflowStep) : StepNames String := ⟨s.name, s.inputs.map Prod.fst⟩

/-- The names of a job. -/
def WorkflowJob.names (j : WorkflowJob) : JobNames String :=
  ⟨j.name, j.steps.map WorkflowStep.names, j.needs⟩

/-- The names of a workflow. -/
def Workflow.names (w : Workflow) : WorkflowNames String :=
  ⟨w.name, w.events.map Event.branches, w.jobs.map WorkflowJob.names, w.env.map Prod.fst⟩

/-! ## Names in a document -/

namespace Yaml.Node

/-- What a scalar stands for. -/
def value? : Node → Option Value
  | scalar s => some s.value
  | _ => none

/-- The entries of a mapping. -/
def entries? : Node → Option (List (Yaml.Scalar × Node))
  | mapping entries => some entries
  | _ => none

/-- The items of a sequence. -/
def items? : Node → Option (List Node)
  | sequence items => some items
  | _ => none

/-- What a mapping has under a key. -/
def get? (key : String) (node : Node) : Option Node := do
  let entry ← (← node.entries?).find? fun entry => entry.1.value = .text key
  some entry.2

/-- The keys of a mapping. -/
def keys? (node : Node) : Option (List Value) := do
  some ((← node.entries?).map fun entry => entry.1.value)

/-- What the scalars of a sequence stand for. -/
def values? (node : Node) : Option (List Value) := do
  (← node.items?).mapM value?

/-- The values that a mapping lists under a key, none if the key is not there. -/
def listed? (key : String) (node : Node) : Option (List Value) :=
  match node.get? key with
  | some list => list.values?
  | none => some []

/-- The keys of the mapping that a mapping has under a key, none if the key is not there. -/
def keysAt? (key : String) (node : Node) : Option (List Value) :=
  match node.get? key with
  | some found => found.keys?
  | none => some []

/-- The names of a step in its tree. -/
def stepNames? (node : Node) : Option (StepNames Value) := do
  let name ← (← node.get? "name").value?
  let inputs ← node.keysAt? "with"
  some ⟨name, inputs⟩

/-- The names of a job in its entry. -/
def jobNames? (entry : Yaml.Scalar × Node) : Option (JobNames Value) := do
  let steps ← (← (← entry.2.get? "steps").items?).mapM stepNames?
  let needs ← entry.2.listed? "needs"
  some ⟨entry.1.value, steps, needs⟩

/-- The names of a workflow in its tree. -/
def names? (node : Node) : Option (WorkflowNames Value) := do
  let name ← (← node.get? "name").value?
  let branches ← (← (← node.get? "on").entries?).mapM fun event => event.2.listed? "branches"
  let jobs ← (← (← node.get? "jobs").entries?).mapM jobNames?
  let env ← (← node.get? "env").keys?
  some ⟨name, branches, jobs, env⟩

end Yaml.Node

open Scalar (radixNumber? readBack readBack_eq_text_iff value_written)

/-! ## Names found -/

/-- The names of the document's own. -/
def ownWords : List String :=
  ["name", "concurrent", "on", "jobs", "env", "push", "pull_request", "schedule",
    "workflow_dispatch", "branches", "cron", "description", "continue-on-error", "if", "steps",
    "needs", "with"]

/-- A name of the document's own stands for itself. -/
theorem value_word : ∀ name ∈ ownWords, (word name).value = .text name := by decide +kernel

/-- An entry under a name of the document's own is found by that name, and passed over otherwise. -/
theorem get?_word {name key : String} (own : name ∈ ownWords) (value : Node)
    (entries : List (Yaml.Scalar × Node)) :
    (Node.mapping ((word name, value) :: entries)).get? key =
      if name = key then some value else (Node.mapping entries).get? key := by
  have stands := value_word name own
  by_cases same : name = key
  · subst same
    simp [Node.get?, Node.entries?, stands]
  · simp [Node.get?, Node.entries?, stands, same]

/-- Things that are each read are read one after another. -/
theorem mapM_map_some {α β γ : Type} {f : β → Option γ} {g : α → β} {h : α → γ}
    (each : ∀ a, f (g a) = some (h a)) (items : List α) :
    (items.map g).mapM f = some (items.map h) := by
  induction items with
  | nil => rfl
  | cons item items ih =>
    rw [List.map_cons, List.mapM_cons, each, ih]
    rfl

/-- A list of names is read back. -/
theorem values?_namesNode (names : List String) :
    (namesNode names).values? = some (names.map readBack) :=
  mapM_map_some (f := Node.value?) (g := fun name => .scalar (Scalar.written name))
    (fun name => congrArg some (value_written name)) names

/-- Names that are listed if there are any are read back. -/
theorem listed?_names {name : String} (own : name ∈ ownWords) (names : List String) :
    (Node.mapping (if names.isEmpty then [] else [(word name, namesNode names)])).listed? name =
      some (names.map readBack) := by
  cases names with
  | nil => rfl
  | cons first names =>
    have found : (Node.mapping [(word name, namesNode (first :: names))]).get? name =
        some (namesNode (first :: names)) := by rw [get?_word own, if_pos rfl]
    rw [List.isEmpty_cons, if_neg Bool.false_ne_true, Node.listed?, found]
    exact values?_namesNode (first :: names)

/-- The names before quoted texts are read back. -/
theorem keys?_textEntries (entries : List (String × String)) :
    (Node.mapping (entries.map textEntry)).keys? = some ((entries.map Prod.fst).map readBack) := by
  rw [List.map_map]
  refine congrArg some ?_
  rw [List.map_map]
  exact List.map_congr_left fun entry _ => value_written entry.1

/-- The branches of an event are read back. -/
theorem listed?_branches (e : Event) :
    e.entry.2.listed? "branches" = some (e.branches.map readBack) := by
  have limited : ∀ branches,
      (Event.limits branches).listed? "branches" = some (branches.map readBack) :=
    listed?_names (by decide)
  cases e with
  | push branches => exact limited branches
  | pullRequest branches => exact limited branches
  | schedule crons => cases crons <;> rfl
  | workflowDispatch => rfl

/-- The names of a step are read back. -/
theorem stepNames?_node (s : WorkflowStep) :
    s.node.stepNames? = some (s.names.map readBack) := by
  have name : s.node.get? "name" = some (.scalar (Scalar.written s.name)) :=
    get?_word (by decide) _ _
  have own : (Node.scalar (Scalar.written s.name)).value? = some (readBack s.name) :=
    congrArg some (value_written s.name)
  have inputs : s.node.keysAt? "with" = some ((s.inputs.map Prod.fst).map readBack) := by
    have later : s.node.get? "with" = (Node.mapping s.inputEntries).get? "with" :=
      get?_word (by decide) _ _
    unfold Node.keysAt?
    rw [later, WorkflowStep.inputEntries]
    cases s.inputs with
    | nil => rfl
    | cons input inputs =>
      have found : (Node.mapping [(word "with", .mapping ((input :: inputs).map textEntry))]).get?
          "with" = some (.mapping ((input :: inputs).map textEntry)) := get?_word (by decide) _ _
      rw [if_neg (by simp), found]
      exact keys?_textEntries (input :: inputs)
  rw [Node.stepNames?, name, inputs, Option.bind_eq_bind, Option.bind_some, own]
  rfl

/-- The names of a job are read back. -/
theorem jobNames?_entry (j : WorkflowJob) :
    Node.jobNames? j.entry = some (j.names.map readBack) := by
  have steps : j.entry.2.get? "steps" = some (.sequence (j.steps.map WorkflowStep.node)) := by
    cases condition : j.condition <;>
      simp (disch := decide) [WorkflowJob.entry, WorkflowJob.entries, get?_word, condition]
  have needs : j.entry.2.listed? "needs" = some (j.needs.map readBack) := by
    have later : j.entry.2.get? "needs" =
        (Node.mapping (if j.needs.isEmpty then [] else [(word "needs", namesNode j.needs)])).get?
          "needs" := by
      cases condition : j.condition <;>
        simp (disch := decide) [WorkflowJob.entry, WorkflowJob.entries, get?_word, condition]
    rw [Node.listed?, later]
    exact listed?_names (by decide) j.needs
  have own : j.entry.1.value = readBack j.name := value_written j.name
  have stepNames : (j.steps.map WorkflowStep.node).mapM Node.stepNames? =
      some (j.steps.map fun s => s.names.map readBack) := mapM_map_some stepNames?_node j.steps
  unfold Node.jobNames?
  rw [steps, needs, own]
  simp [Node.items?, stepNames, WorkflowJob.names, JobNames.map]

/-- The names of a workflow are read back. -/
theorem names?_node (w : Workflow) : w.node.names? = some (w.names.map readBack) := by
  have name : w.node.get? "name" = some (.scalar (Scalar.written w.name)) := by
    simp (disch := decide) [Workflow.node, Workflow.entries, get?_word]
  have events : w.node.get? "on" = some (.mapping (w.events.map Event.entry)) := by
    simp (disch := decide) [Workflow.node, Workflow.entries, get?_word]
  have jobs : w.node.get? "jobs" = some (.mapping (w.jobs.map WorkflowJob.entry)) := by
    simp (disch := decide) [Workflow.node, Workflow.entries, get?_word]
  have env : w.node.get? "env" = some (.mapping (w.env.map textEntry)) := by
    simp (disch := decide) [Workflow.node, Workflow.entries, get?_word]
  have own : (Node.scalar (Scalar.written w.name)).value? = some (readBack w.name) :=
    congrArg some (value_written w.name)
  have branches : (w.events.map Event.entry).mapM (fun event => event.2.listed? "branches") =
      some (w.events.map fun e => e.branches.map readBack) :=
    mapM_map_some (f := fun event => event.2.listed? "branches") (g := Event.entry)
      listed?_branches w.events
  have jobNames : (w.jobs.map WorkflowJob.entry).mapM Node.jobNames? =
      some (w.jobs.map fun j => j.names.map readBack) := mapM_map_some jobNames?_entry w.jobs
  have keys := keys?_textEntries w.env
  unfold Node.names?
  rw [name, events, jobs, env]
  simp [own, Node.entries?, branches, jobNames, keys, Workflow.names, WorkflowNames.map]

/-! ## All names -/

/-- What is written for a text is read back as a scalar with the same characters, bare or quoted,
and so is every name of a pipeline where it stands in the document. It stands for the text itself
unless this has the shape of a number in base eight or sixteen. -/
theorem Pipeline.names_read_back (text : String) (p : Pipeline) :
    (readScalar (Scalar.scalar text) = some (Scalar.written text, []) ∧
      (Scalar.written text).value = readBack text ∧
      (readBack text = .text text ↔ radixNumber? text = none)) ∧
    (Yaml.read (Pipeline.document (some p))).bind Node.names? =
      some ((Workflow.ofPipeline p).names.map readBack) ∧
    ((Workflow.ofPipeline p).names.map readBack = (Workflow.ofPipeline p).names.map .text ↔
      ∀ name ∈ (Workflow.ofPipeline p).names.all, radixNumber? name = none) := by
  have read : readScalar (Scalar.scalar text ++ []) = some (Scalar.written text, []) :=
    Scalar.readScalar_scalar text nofun
  rw [List.append_nil] at read
  refine ⟨⟨read, value_written text, readBack_eq_text_iff⟩, ?_, ?_⟩
  · rw [Pipeline.document, Workflow.read_document, Option.bind_some]
    exact names?_node _
  · rw [WorkflowNames.map_eq_map_iff]
    exact forall₂_congr fun name _ => readBack_eq_text_iff

/-- A pipeline whose name has the shape of a number in base sixteen is written with a bare name, and
this is read as that number. -/
theorem Pipeline.name_read_as_number :
    Scalar.scalar "0x1F" = "0x1F".toList ∧
      (Yaml.read (Pipeline.document (some ⟨"0x1F", false, []⟩))).bind Node.names? =
        some ⟨.int 31, [], [], []⟩ := by
  decide +kernel

end Pipewright
