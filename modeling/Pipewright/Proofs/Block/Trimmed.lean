import Pipewright.Block.Read
import Pipewright.Proofs.Lint.Issues
import Pipewright.Workflow.Document

/-!
# Unknown blocks say nothing

A workspace is trimmed when the unknown blocks among the blocks of its pipelines and jobs are left
out, at any depth. Neither the document of a pipeline nor its issues, with the positions they
count, depend on what is left out (`Pipeline.document_trimmed`, `Pipeline.issues_trimmed`).
-/
namespace Pipewright

namespace Block

/-- Whether a block is of a known kind. -/
def isKnown : Block → Bool
  | unknown => false
  | _ => true

mutual

/-- The block without the unknown blocks inside it. -/
def trimmed : Block → Block
  | pipeline name concurrent children =>
    pipeline name concurrent ((eachTrimmed children).filter isKnown)
  | job name description continueOnError needs condition children =>
    job name description continueOnError needs condition ((eachTrimmed children).filter isKnown)
  | step s => step s
  | trigger t => trigger t
  | env v => env v
  | unknown => unknown

/-- Each of some blocks without the unknown blocks inside it. -/
def eachTrimmed : List Block → List Block
  | [] => []
  | b :: blocks => trimmed b :: eachTrimmed blocks

end

/-- Some blocks without the unknown ones among them and inside them. -/
def kept (blocks : List Block) : List Block := (eachTrimmed blocks).filter isKnown

/-- A block that is trimmed alike is kept alike. -/
theorem kept_cons_congr {b b' : Block} {blocks blocks' : List Block}
    (first : b'.trimmed = b.trimmed) (rest : kept blocks' = kept blocks) :
    kept (b' :: blocks') = kept (b :: blocks) := by
  rw [kept, kept] at rest
  rw [kept, kept, eachTrimmed, eachTrimmed, first, List.filter_cons, List.filter_cons, rest]

/-- An unknown block is not kept. -/
theorem kept_unknown (blocks : List Block) : kept (unknown :: blocks) = kept blocks := rfl

/-- Blocks are trimmed one by one. -/
theorem eachTrimmed_eq_map (blocks : List Block) : eachTrimmed blocks = blocks.map trimmed := by
  induction blocks with
  | nil => rfl
  | cons b blocks ih => rw [eachTrimmed, ih, List.map_cons]

/-- A view of blocks that passes over unknown ones sees of what is kept what it sees trimmed. -/
theorem filterMap_kept {α : Type} (view : Block → Option α) (trim : α → α)
    (blind : view unknown = none) (trims : ∀ b : Block, view b.trimmed = (view b).map trim)
    (blocks : List Block) : (kept blocks).filterMap view = (blocks.filterMap view).map trim := by
  have passes (b : Block) : (if b.isKnown then view b else none) = view b := by
    cases b <;> simp [isKnown, blind]
  calc (kept blocks).filterMap view
      = (eachTrimmed blocks).filterMap view := by
        rw [kept, List.filterMap_filter]
        exact congrArg (List.filterMap · (eachTrimmed blocks)) (funext passes)
    _ = blocks.filterMap (fun b => view b.trimmed) := by
        rw [eachTrimmed_eq_map, List.filterMap_map]
        rfl
    _ = (blocks.filterMap view).map trim := by
        simp only [trims, List.map_filterMap]

end Block

/-! ## Views -/

/-- The job without the unknown blocks inside it. -/
def Job.trimmed (j : Job) : Job := { j with children := Block.kept j.children }

/-- The pipeline without the unknown blocks inside it. -/
def Pipeline.trimmed (p : Pipeline) : Pipeline := { p with children := Block.kept p.children }

/-- The name of a job is not trimmed. -/
@[simp] theorem Job.name_trimmed (j : Job) : j.trimmed.name = j.name := rfl

/-- The steps of a job are not trimmed. -/
@[simp] theorem Job.steps_trimmed (j : Job) : j.trimmed.steps = j.steps := by
  have steps := Block.filterMap_kept Block.step? id rfl
    (fun b => by cases b <;> rfl) j.children
  rwa [List.map_id] at steps

/-- A trimmed job says the same. -/
theorem WorkflowJob.ofJob_trimmed (j : Job) :
    WorkflowJob.ofJob j.trimmed = WorkflowJob.ofJob j := by
  rw [WorkflowJob.ofJob, Job.steps_trimmed]
  rfl

namespace Pipeline

/-- The jobs of a trimmed pipeline are the trimmed jobs. -/
theorem jobs_trimmed (p : Pipeline) : p.trimmed.jobs = p.jobs.map Job.trimmed :=
  Block.filterMap_kept Block.job? Job.trimmed rfl (fun b => by cases b <;> rfl) p.children

/-- Triggers are not trimmed. -/
theorem triggers_trimmed (p : Pipeline) : p.trimmed.triggers = p.triggers := by
  have triggers := Block.filterMap_kept Block.trigger? id rfl
    (fun b => by cases b <;> rfl) p.children
  rwa [List.map_id] at triggers

/-- Environment variables are not trimmed. -/
theorem env_trimmed (p : Pipeline) : p.trimmed.env = p.env := by
  have env := Block.filterMap_kept Block.env? id rfl
    (fun b => by cases b <;> rfl) p.children
  rwa [List.map_id] at env

/-- The first pipeline of what is kept of some blocks is the trimmed first one. -/
theorem first_kept (blocks : List Block) :
    first (Block.kept blocks) = (first blocks).map trimmed := by
  have pipelines := Block.filterMap_kept Block.pipeline? trimmed rfl
    (fun b => by cases b <;> rfl) blocks
  rw [first, first, ← List.head?_filterMap, ← List.head?_filterMap, pipelines, List.head?_map]

/-! ## Documents -/

/-- A trimmed pipeline says the same. -/
theorem ofPipeline_trimmed (p : Pipeline) :
    Workflow.ofPipeline p.trimmed = Workflow.ofPipeline p := by
  have jobs : p.trimmed.jobs.map WorkflowJob.ofJob = p.jobs.map WorkflowJob.ofJob := by
    rw [jobs_trimmed, List.map_map]
    exact List.map_congr_left fun j _ => WorkflowJob.ofJob_trimmed j
  rw [Workflow.ofPipeline, jobs, triggers_trimmed, env_trimmed]
  rfl

/-- Unknown blocks leave no trace in the document. -/
theorem document_trimmed (p : Option Pipeline) : document (p.map trimmed) = document p := by
  cases p with
  | none => rfl
  | some p => exact congrArg Workflow.document (ofPipeline_trimmed p)

end Pipeline

/-! ## Issues -/

/-- Unknown blocks are no issue, and change none. -/
theorem Pipeline.issues_trimmed (p : Pipeline) : p.trimmed.issues = p.issues :=
  issues_eq_of_jobs_eq_map p.jobs_trimmed (fun _ => rfl) (fun _ => rfl) Job.steps_trimmed

end Pipewright
