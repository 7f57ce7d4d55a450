import Mathlib.Data.List.Forall2
import Pipewright.Proofs.Workflow.NormalForm
import Pipewright.Proofs.Yaml.Block

/-!
# The layout of a document

The shape of a pipeline is what remains of it without its texts and truth values: which kinds of
event start it, and how many names, inputs and variables it lists where. It decides how many lines
the document has, how far each is indented, and which template each is filled into
(`Pipeline.document_layout`). No text adds a line or moves one, since what fills a template neither
holds a line end nor starts with a space.
-/
namespace Pipewright

/-! ## Templates -/

/-- A part of a template: text that is always the same, or a place to be filled. -/
inductive Slot where
  /-- Text that is always the same. -/
  | fixed (text : String)
  /-- The place of a truth value. -/
  | truth
  /-- The place of a name, bare or quoted. -/
  | name
  /-- The place of a quoted text. -/
  | quoted
  /-- The place of a list of names. -/
  | names
  deriving DecidableEq

/-- Whether characters are what stands in a part of a template. -/
inductive Slot.Holds : Slot → List Char → Prop where
  /-- Text that is always the same. -/
  | fixed (text : String) : Holds (.fixed text) text.toList
  /-- A truth value. -/
  | truth (b : Bool) : Holds .truth (boolText b).toList
  /-- A name. -/
  | name (text : String) : Holds .name (Scalar.scalar text)
  /-- A quoted text. -/
  | quoted (text : String) : Holds .quoted (Scalar.quoted text)
  /-- A list of names. -/
  | names (items : List String) : Holds .names (Scalar.flow items)

/-- What a line is before it is filled. -/
structure LineTemplate where
  /-- The levels it is indented by. -/
  depth : Nat
  /-- Its parts in order, none in a blank line. -/
  slots : List Slot
  deriving DecidableEq

/-- Whether a line, without its end, is a template that has been filled. -/
def LineTemplate.Fits (t : LineTemplate) (line : List Char) : Prop :=
  ∃ pieces, List.Forall₂ Slot.Holds t.slots pieces ∧
    line = List.replicate (2 * t.depth) ' ' ++ pieces.flatten

/-- The spaces at the start of a line. -/
def indentation (line : List Char) : Nat := (line.takeWhile (· == ' ')).length

/-- The lines of a text in which every line ends. -/
def linesOf (text : String) : List (List Char) := (splitAtChar '\n' text.toList).dropLast

/-- Whether the lines of a text are those of some templates. -/
structure IsLaidOut (templates : List LineTemplate) (text : String) : Prop where
  /-- There is one line for each template, and it is that template filled. -/
  fits : List.Forall₂ LineTemplate.Fits templates (linesOf text)
  /-- Each line is indented as its template says. -/
  indented : (linesOf text).map indentation = templates.map fun t => 2 * t.depth
  /-- Each line ends, and nothing comes after the last one. -/
  ended : text.toList = (linesOf text).flatMap (· ++ ['\n'])
  /-- No line ends but where a template does. -/
  count_eq : text.toList.count '\n' = templates.length

/-! ## Shapes -/

/-- The shape of an event. -/
inductive EventShape where
  /-- A push, limited to branches or not. -/
  | push (limited : Bool)
  /-- A pull request, limited to branches or not. -/
  | pullRequest (limited : Bool)
  /-- A schedule of that many times. -/
  | schedule (times : Nat)
  /-- A start by hand. -/
  | workflowDispatch
  deriving DecidableEq

/-- The shape of a job. -/
structure JobShape where
  /-- Whether it runs on a condition. -/
  conditional : Bool
  /-- The number of inputs of each step, arguments being one. -/
  steps : List Nat
  /-- Whether it waits for other jobs. -/
  waits : Bool
  deriving DecidableEq

/-- The shape of a workflow. -/
structure WorkflowShape where
  /-- The shapes of its events in order. -/
  events : List EventShape
  /-- The shapes of its jobs in order. -/
  jobs : List JobShape
  /-- The number of its variables. -/
  variableCount : Nat
  deriving DecidableEq

/-- What remains of an event without its texts. -/
def Event.shape : Event → EventShape
  | push branches => .push !branches.isEmpty
  | pullRequest branches => .pullRequest !branches.isEmpty
  | schedule crons => .schedule crons.length
  | workflowDispatch => .workflowDispatch

/-- What remains of a job without its texts. -/
def WorkflowJob.shape (j : WorkflowJob) : JobShape :=
  ⟨j.condition.isSome, j.steps.map fun s => s.inputs.length, !j.needs.isEmpty⟩

/-- What remains of a workflow without its texts. -/
def Workflow.shape (w : Workflow) : WorkflowShape :=
  ⟨w.events.map Event.shape, w.jobs.map WorkflowJob.shape, w.env.length⟩

/-- The shape of a pipeline is that of what it means. -/
def Pipeline.shape (p : Pipeline) : WorkflowShape := p.normalForm.shape

/-! ## The templates of a shape -/

/-- The templates of a section: its heading alone when it has no entries. -/
def sectionTemplates (bare heading : LineTemplate) (entries : List LineTemplate) :
    List LineTemplate :=
  if entries.isEmpty then [bare] else heading :: entries

/-- The templates of an event that may be limited to branches. -/
def limitedTemplates (name : String) (limited : Bool) : List LineTemplate :=
  if limited then [⟨1, [.fixed (name ++ ":")]⟩, ⟨2, [.fixed "branches: ", .names]⟩]
  else [⟨1, [.fixed (name ++ ": \x7b\x7d")]⟩]

/-- The templates of an event. -/
def EventShape.templates : EventShape → List LineTemplate
  | push limited => limitedTemplates "push" limited
  | pullRequest limited => limitedTemplates "pull_request" limited
  | schedule times =>
    ⟨1, [.fixed "schedule:"]⟩ :: List.replicate times ⟨2, [.fixed "- cron: ", .quoted]⟩
  | workflowDispatch => [⟨1, [.fixed "workflow_dispatch: \x7b\x7d"]⟩]

/-- The templates of a step with that many inputs. -/
def stepTemplates (inputs : Nat) : List LineTemplate :=
  ⟨3, [.fixed "- name: ", .name]⟩ ::
    if inputs = 0 then []
    else ⟨4, [.fixed "with:"]⟩ :: List.replicate inputs ⟨5, [.name, .fixed ": ", .quoted]⟩

/-- The templates of a job. -/
def JobShape.templates (j : JobShape) : List LineTemplate :=
  [⟨1, [.name, .fixed ":"]⟩, ⟨2, [.fixed "description: ", .quoted]⟩,
    ⟨2, [.fixed "continue-on-error: ", .truth]⟩]
  ++ (if j.conditional then [⟨2, [.fixed "if: ", .quoted]⟩] else [])
  ++ sectionTemplates ⟨2, [.fixed "steps: []"]⟩ ⟨2, [.fixed "steps:"]⟩
      (j.steps.flatMap stepTemplates)
  ++ (if j.waits then [⟨2, [.fixed "needs: ", .names]⟩] else [])

/-- The templates of a section at the left margin. -/
def outlinedTemplates (name : String) (entries : List LineTemplate) : List LineTemplate :=
  sectionTemplates ⟨0, [.fixed (name ++ ": \x7b\x7d")]⟩ ⟨0, [.fixed (name ++ ":")]⟩ entries

/-- The templates of a workflow's document. -/
def WorkflowShape.templates (w : WorkflowShape) : List LineTemplate :=
  [⟨0, [.fixed "name: ", .name]⟩, ⟨0, [.fixed "concurrent: ", .truth]⟩, ⟨0, []⟩]
  ++ outlinedTemplates "on" (w.events.flatMap EventShape.templates) ++ [⟨0, []⟩]
  ++ outlinedTemplates "jobs" (w.jobs.flatMap JobShape.templates) ++ [⟨0, []⟩]
  ++ outlinedTemplates "env" (List.replicate w.variableCount ⟨1, [.name, .fixed ": ", .quoted]⟩)

/-! ## Lines fill templates -/

/-- Whether a line of a document is a template that has been filled. -/
def DocumentLine.Fills (line : DocumentLine) (t : LineTemplate) : Prop :=
  t.depth = line.depth ∧ ∃ pieces, List.Forall₂ Slot.Holds t.slots pieces ∧
    pieces.flatten = line.text

/-- Whether lines are templates that have been filled, one each. -/
abbrev Fill (templates : List LineTemplate) (lines : List DocumentLine) : Prop :=
  List.Forall₂ (fun t line => line.Fills t) templates lines

/-- The place that a part of a line fills. -/
def LinePart.slot : LinePart → Slot
  | fixed text => .fixed text
  | scalar _ => .name
  | quoted _ => .quoted
  | flow _ => .names

section Filling

variable {line : DocumentLine} {lines others : List DocumentLine}
  {templates more : List LineTemplate} {α β : Type}

/-- A part of a line stands in its place. -/
theorem LinePart.holds_slot (part : LinePart) : part.slot.Holds part.chars := by
  cases part with
  | fixed text => exact .fixed text
  | scalar text => exact .name text
  | quoted text => exact .quoted text
  | flow items => exact .names items

/-- A line fills the places of its parts. -/
theorem DocumentLine.fills_slots (line : DocumentLine) :
    line.Fills ⟨line.depth, line.parts.map LinePart.slot⟩ := by
  refine ⟨rfl, line.parts.map LinePart.chars, ?_, List.flatMap_def.symm⟩
  rw [List.forall₂_map_left_iff, List.forall₂_map_right_iff]
  exact List.forall₂_same.mpr fun part _ => part.holds_slot

/-- A line that ends with a truth value fills the place of one. -/
theorem fills_truth (depth : Nat) (name : String) (b : Bool) :
    DocumentLine.Fills ⟨depth, [.fixed (name ++ boolText b)]⟩ ⟨depth, [.fixed name, .truth]⟩ := by
  refine ⟨rfl, [name.toList, (boolText b).toList], ?_, ?_⟩
  · exact .cons (.fixed name) (.cons (.truth b) .nil)
  · simp [DocumentLine.text, LinePart.chars]

/-- Lines after lines fill templates after templates. -/
theorem Fill.append (first : Fill templates lines) (second : Fill more others) :
    Fill (templates ++ more) (lines ++ others) := List.rel_append first second

/-- The lines of things fill the templates of their shapes when those of each do. -/
theorem fill_flatMap {shape : α → β} {render : β → List LineTemplate}
    {write : α → List DocumentLine} (each : ∀ a, Fill (render (shape a)) (write a))
    (items : List α) : Fill ((items.map shape).flatMap render) (items.flatMap write) := by
  induction items with
  | nil => exact .nil
  | cons item items ih =>
    rw [List.map_cons, List.flatMap_cons, List.flatMap_cons]
    exact (each item).append ih

/-- Lines of one shape fill copies of one template when each fills it. -/
theorem fill_map {write : α → DocumentLine} {t : LineTemplate} (each : ∀ a, (write a).Fills t)
    (items : List α) : Fill (List.replicate items.length t) (items.map write) := by
  induction items with
  | nil => exact .nil
  | cons item items ih =>
    rw [List.length_cons, List.replicate_succ, List.map_cons]
    exact .cons (each item) ih

/-- A section fills the templates of a section, as its entries fill theirs. -/
theorem fill_section (bare heading : DocumentLine) (entries : Fill templates lines) :
    Fill (sectionTemplates ⟨bare.depth, bare.parts.map LinePart.slot⟩
      ⟨heading.depth, heading.parts.map LinePart.slot⟩ templates)
      (sectionLines bare heading lines) := by
  cases entries with
  | nil => exact .cons bare.fills_slots .nil
  | cons first rest => exact .cons heading.fills_slots (.cons first rest)

/-- A section at the left margin fills the templates of one. -/
theorem fill_outlined (name : String) (entries : Fill templates lines) :
    Fill (outlinedTemplates name templates) (Workflow.outlined name lines) :=
  fill_section ⟨0, [.fixed (name ++ ": \x7b\x7d")]⟩ ⟨0, [.fixed (name ++ ":")]⟩ entries

end Filling

/-! ## The lines of a workflow -/

/-- The lines of an event fill the templates of its shape. -/
theorem Event.fill_lines (e : Event) : Fill e.shape.templates e.lines := by
  have limited : ∀ name (branches : List String),
      Fill (limitedTemplates name !branches.isEmpty) (Event.lines.limited name branches) := by
    intro name branches
    cases branches with
    | nil => exact .cons (DocumentLine.fills_slots _) .nil
    | cons branch branches =>
      exact .cons (DocumentLine.fills_slots _) (.cons (DocumentLine.fills_slots _) .nil)
  cases e with
  | push branches => exact limited "push" branches
  | pullRequest branches => exact limited "pull_request" branches
  | schedule crons =>
    have times : Fill (List.replicate crons.length ⟨2, [.fixed "- cron: ", .quoted]⟩)
        (crons.map fun cron => ⟨2, [.fixed "- cron: ", .quoted cron]⟩) :=
      fill_map (fun cron => DocumentLine.fills_slots ⟨2, [.fixed "- cron: ", .quoted cron]⟩) crons
    exact .cons (DocumentLine.fills_slots _) times
  | workflowDispatch => exact .cons (DocumentLine.fills_slots _) .nil

/-- The lines of a step fill the templates of its number of inputs. -/
theorem WorkflowStep.fill_lines (s : WorkflowStep) :
    Fill (stepTemplates s.inputs.length) s.lines := by
  obtain ⟨name, inputs⟩ := s
  refine .cons (DocumentLine.fills_slots _) ?_
  cases inputs with
  | nil => exact .nil
  | cons input inputs =>
    refine .cons (DocumentLine.fills_slots _) ?_
    exact fill_map (fun input => DocumentLine.fills_slots
      ⟨5, [.scalar input.1, .fixed ": ", .quoted input.2]⟩) (input :: inputs)

/-- The lines of a job fill the templates of its shape. -/
theorem WorkflowJob.fill_lines (j : WorkflowJob) : Fill j.shape.templates j.lines := by
  have condition : Fill (if j.condition.isSome then [⟨2, [.fixed "if: ", .quoted]⟩] else [])
      (conditionLines j.condition) := by
    cases j.condition with
    | none => exact .nil
    | some condition => exact .cons (DocumentLine.fills_slots _) .nil
  have steps : Fill (sectionTemplates ⟨2, [.fixed "steps: []"]⟩ ⟨2, [.fixed "steps:"]⟩
      (j.shape.steps.flatMap stepTemplates)) (stepsLines j.steps) :=
    fill_section ⟨2, [.fixed "steps: []"]⟩ ⟨2, [.fixed "steps:"]⟩
      (fill_flatMap WorkflowStep.fill_lines j.steps)
  have needs : Fill (if j.shape.waits then [⟨2, [.fixed "needs: ", .names]⟩] else [])
      (needsLines j.needs) := by
    unfold WorkflowJob.shape needsLines
    cases j.needs with
    | nil => exact .nil
    | cons need needs => exact .cons (DocumentLine.fills_slots _) .nil
  have head : Fill [⟨1, [.name, .fixed ":"]⟩, ⟨2, [.fixed "description: ", .quoted]⟩,
        ⟨2, [.fixed "continue-on-error: ", .truth]⟩]
      [⟨1, [.scalar j.name, .fixed ":"]⟩, ⟨2, [.fixed "description: ", .quoted j.description]⟩,
        ⟨2, [.fixed ("continue-on-error: " ++ boolText j.continueOnError)]⟩] :=
    .cons (DocumentLine.fills_slots _) (.cons (DocumentLine.fills_slots _)
      (.cons (fills_truth 2 _ _) .nil))
  have all := head.append (condition.append (steps.append needs))
  rw [lines_eq, JobShape.templates, List.append_assoc, List.append_assoc]
  exact all

/-- The lines of a workflow fill the templates of its shape. -/
theorem Workflow.fill_lines (w : Workflow) : Fill w.shape.templates w.lines := by
  have blank : Fill [⟨0, []⟩] [.blank] := .cons (DocumentLine.fills_slots _) .nil
  have head : Fill [⟨0, [.fixed "name: ", .name]⟩, ⟨0, [.fixed "concurrent: ", .truth]⟩, ⟨0, []⟩]
      [⟨0, [.fixed "name: ", .scalar w.name]⟩,
        ⟨0, [.fixed ("concurrent: " ++ boolText w.concurrent)]⟩, .blank] :=
    .cons (DocumentLine.fills_slots _) (.cons (fills_truth 0 _ _) blank)
  have events : Fill (outlinedTemplates "on" (w.shape.events.flatMap EventShape.templates))
      (outlined "on" (w.events.flatMap Event.lines)) :=
    fill_outlined "on" (fill_flatMap Event.fill_lines w.events)
  have jobs : Fill (outlinedTemplates "jobs" (w.shape.jobs.flatMap JobShape.templates))
      (outlined "jobs" (w.jobs.flatMap WorkflowJob.lines)) :=
    fill_outlined "jobs" (fill_flatMap WorkflowJob.fill_lines w.jobs)
  have env : Fill (outlinedTemplates "env"
      (List.replicate w.shape.variableCount ⟨1, [.name, .fixed ": ", .quoted]⟩))
      (outlined "env" (w.env.map envLine)) :=
    fill_outlined "env" (fill_map (fun var => DocumentLine.fills_slots (envLine var)) w.env)
  exact ((((head.append events).append blank).append jobs).append blank).append env

/-! ## The lines of a document -/

section Lines

variable {lines : List DocumentLine} {templates : List LineTemplate}

/-- The spaces at the start of a tidy line are those of its indentation. -/
theorem DocumentLine.indentation_content {line : DocumentLine} (tidy : line.IsTidy) :
    indentation line.content = 2 * line.depth := by
  have spaces : ∀ c ∈ List.replicate (2 * line.depth) ' ', (c == ' ') = true := by
    intro c member
    rw [(List.mem_replicate.mp member).2]
    rfl
  have none : line.text.takeWhile (· == ' ') = [] := by
    have unspaced := tidy.unspaced
    cases text : line.text with
    | nil => rfl
    | cons c cs =>
      have other : c ≠ ' ' := unspaced c (by rw [text]; rfl)
      simp [other]
  rw [indentation, content, List.takeWhile_append_of_pos spaces, none, List.append_nil,
    List.length_replicate]

/-- A tidy line that fills a template fits it. -/
theorem DocumentLine.Fills.fits {line : DocumentLine} {t : LineTemplate} (fills : line.Fills t) :
    t.Fits line.content := by
  obtain ⟨depth, pieces, holds, same⟩ := fills
  exact ⟨pieces, holds, by rw [content, depth, same]⟩

/-- The lines of a text are the contents of the tidy lines of which it is made. -/
theorem linesOf_chars (tidy : ∀ line ∈ lines, line.IsTidy) :
    linesOf (String.ofList (lines.flatMap DocumentLine.chars)) =
      lines.map DocumentLine.content := by
  have split : splitAtChar '\n' (lines.flatMap DocumentLine.chars) =
      lines.map DocumentLine.content ++ [[]] := by
    induction lines with
    | nil => rfl
    | cons line lines ih =>
      have apart := DocumentLine.unbroken_content (tidy line List.mem_cons_self)
      have whole : (line :: lines).flatMap DocumentLine.chars =
          line.content ++ '\n' :: lines.flatMap DocumentLine.chars := by
        rw [List.flatMap_cons, DocumentLine.chars_eq, List.append_assoc]
        rfl
      rw [whole, Yaml.splitAtChar_append apart,
        ih fun other member => tidy other (List.mem_cons_of_mem _ member)]
      rfl
  rw [linesOf, String.toList_ofList, split, List.dropLast_concat]

/-- The line ends of tidy lines are as many as they. -/
theorem count_lineEnd_chars (tidy : ∀ line ∈ lines, line.IsTidy) :
    (lines.flatMap DocumentLine.chars).count '\n' = lines.length := by
  have one : ∀ line ∈ lines, line.chars.count '\n' = 1 := by
    intro line member
    have unbroken := DocumentLine.unbroken_content (tidy line member)
    rw [DocumentLine.chars_eq, List.count_append, List.count_eq_zero.mpr fun inside =>
      unbroken '\n' inside rfl]
    rfl
  have ones : lines.map (List.count '\n' ∘ DocumentLine.chars) = lines.map fun _ => 1 :=
    List.map_congr_left one
  rw [List.count_flatMap, ones]
  simp

/-- A text of tidy lines that fill templates is laid out by them. -/
theorem isLaidOut_chars (tidy : ∀ line ∈ lines, line.IsTidy) (fill : Fill templates lines) :
    IsLaidOut templates (String.ofList (lines.flatMap DocumentLine.chars)) := by
  have each : linesOf (String.ofList (lines.flatMap DocumentLine.chars)) =
      lines.map DocumentLine.content := linesOf_chars tidy
  have depths : templates.map LineTemplate.depth = lines.map DocumentLine.depth := by
    rw [← List.forall₂_eq_eq_eq, List.forall₂_map_left_iff, List.forall₂_map_right_iff]
    exact fill.imp fun _ _ fills => fills.1
  have indents : lines.map (indentation ∘ DocumentLine.content) =
      lines.map fun line => 2 * line.depth :=
    List.map_congr_left fun line member => DocumentLine.indentation_content (tidy line member)
  refine ⟨?_, ?_, ?_, ?_⟩
  · rw [each, List.forall₂_map_right_iff]
    exact fill.imp fun _ _ fills => fills.fits
  · have doubled := congrArg (List.map (2 * ·)) depths
    rw [List.map_map, List.map_map] at doubled
    rw [each, List.map_map, indents]
    exact doubled.symm
  · rw [each, String.toList_ofList, List.flatMap_map]
    exact congrArg lines.flatMap (funext DocumentLine.chars_eq)
  · rw [String.toList_ofList, count_lineEnd_chars tidy]
    exact fill.length_eq.symm

end Lines

/-- The document of a pipeline is laid out by the templates of its shape. -/
theorem Pipeline.isLaidOut_document (p : Pipeline) :
    IsLaidOut p.shape.templates (Pipeline.document (some p)) := by
  have tidy : ∀ line ∈ (Workflow.ofPipeline p).lines, line.IsTidy := fun line member =>
    DocumentLine.isTidy_of_hasTidyParts ((Workflow.ofPipeline p).allTidy_lines line member)
  have fill := (Workflow.ofPipeline p).fill_lines
  rw [Pipeline.shape, ← Workflow.ofPipeline_eq]
  exact isLaidOut_chars tidy fill

/-- Two pipelines of one shape have documents of the same lines but for what fills them: as many,
indented alike, and filled into the same templates, whatever their texts are. -/
theorem Pipeline.document_layout (p q : Pipeline) (alike : p.shape = q.shape) :
    IsLaidOut p.shape.templates (Pipeline.document (some p)) ∧
      IsLaidOut p.shape.templates (Pipeline.document (some q)) ∧
      (linesOf (Pipeline.document (some p))).length =
        (linesOf (Pipeline.document (some q))).length ∧
      (linesOf (Pipeline.document (some p))).map indentation =
        (linesOf (Pipeline.document (some q))).map indentation := by
  have laid : IsLaidOut p.shape.templates (Pipeline.document (some p)) := p.isLaidOut_document
  have laid' : IsLaidOut p.shape.templates (Pipeline.document (some q)) :=
    alike ▸ q.isLaidOut_document
  refine ⟨laid, laid', ?_, ?_⟩
  · rw [← laid.fits.length_eq, ← laid'.fits.length_eq]
  · rw [laid.indented, laid'.indented]

/-- A pipeline with modest texts. -/
def modestPipeline : Pipeline where
  name := "ci"
  children := [.job "build" "compiles" false [] none [.step ⟨"checkout", none, []⟩],
    .env ⟨"LEVEL", "1"⟩]

/-- A pipeline of the same shape whose texts look like lines of a document. -/
def forgingPipeline : Pipeline where
  name := "ci\n\non:\n  push: \x7b\x7d"
  children := [.job "build:\n    steps:\n      - name: curl" "\"\n    if: \"true" true [] none
      [.step ⟨"checkout\n        with:\n          args: \"x\"", none, []⟩],
    .env ⟨"LEVEL: \"1\"\n  OTHER", "\"\n"⟩]

/-- Texts that look like lines of a document add none to it. -/
theorem forged_lines_stay_texts :
    modestPipeline.shape = forgingPipeline.shape ∧
      (linesOf (Pipeline.document (some forgingPipeline))).map indentation =
        [0, 0, 0, 0, 0, 0, 2, 4, 4, 4, 6, 0, 0, 2] := by
  have alike : modestPipeline.shape = forgingPipeline.shape := by decide
  have layout := Pipeline.document_layout modestPipeline forgingPipeline alike
  refine ⟨alike, ?_⟩
  rw [layout.2.1.indented]
  decide

end Pipewright
