import Pipewright.Proofs.Workflow.Lines

/-!
# Documents determine workflows

The document of a workflow determines it (`Workflow.document_inj`): whatever the names,
descriptions, branches and values are, none of them can be taken for a part of the document's
structure. Each part of a workflow can be told from its lines, and a section from the depths of
its entries.
-/
namespace Pipewright

open DocumentLine

/-- Whether all lines have tidy parts. -/
def AllTidy (lines : List DocumentLine) : Prop := ∀ line ∈ lines, line.hasTidyParts = true

variable {lines lines' : List DocumentLine}

/-- A line and others are tidy when it and they are. -/
theorem AllTidy.cons {line : DocumentLine} (first : line.hasTidyParts = true)
    (others : AllTidy lines) : AllTidy (line :: lines) :=
  List.forall_mem_cons.mpr ⟨first, others⟩

/-- No lines are tidy. -/
theorem allTidy_nil : AllTidy [] := by
  intro line member
  cases member

/-- Lines and others are tidy when both are. -/
theorem AllTidy.append (first : AllTidy lines) (others : AllTidy lines') :
    AllTidy (lines ++ lines') :=
  List.forall_mem_append.mpr ⟨first, others⟩

/-- The lines of several things are tidy when those of each are. -/
theorem allTidy_flatMap {α : Type} {render : α → List DocumentLine} {items : List α}
    (each : ∀ item, AllTidy (render item)) : AllTidy (items.flatMap render) := by
  intro line member
  obtain ⟨item, -, inside⟩ := List.mem_flatMap.mp member
  exact each item line inside

/-- Lines of one shape are tidy when each is. -/
theorem allTidy_map {α : Type} {render : α → DocumentLine} {items : List α}
    (each : ∀ item, (render item).hasTidyParts = true) : AllTidy (items.map render) := by
  intro line member
  obtain ⟨item, -, rfl⟩ := List.mem_map.mp member
  exact each item

/-- What holds of the first line of a section, with entries or without, and of its entries holds of
all its lines. -/
theorem forall_mem_section {p : DocumentLine → Prop} {bare heading : DocumentLine}
    {entries : List DocumentLine} (holdsBare : p bare) (holdsHeading : p heading)
    (holds : ∀ line ∈ entries, p line) : ∀ line ∈ sectionLines bare heading entries, p line := by
  unfold sectionLines
  cases entries with
  | nil => exact List.forall_mem_singleton.mpr holdsBare
  | cons entry entries => exact List.forall_mem_cons.mpr ⟨holdsHeading, holds⟩

/-- Lines of one shape can be told from their outlines when each can. -/
theorem map_outline_inj {α : Type} {render : α → DocumentLine} {items items' : List α}
    (inj : ∀ a b, (render a).outline = (render b).outline → a = b)
    (same : (items.map render).map outline = (items'.map render).map outline) : items = items' := by
  rw [List.map_map, List.map_map] at same
  exact (List.map_inj_right inj).mp same

/-- A heading without entries is not one with them. -/
theorem bare_ne_heading {depth : Nat} (name : String) :
    outline ⟨depth, [.fixed (name ++ ": \x7b\x7d")]⟩ ≠ outline ⟨depth, [.fixed (name ++ ":")]⟩ := by
  intro same
  have width := congrArg (fun line => line.2.length) same
  simp [outline, text, LinePart.chars] at width

/-- A truth value at the end of a line can be told from its text. -/
theorem boolText_outline_inj {depth : Nat} {name : String} {b b' : Bool}
    (same : outline ⟨depth, [.fixed (name ++ boolText b)]⟩ =
      outline ⟨depth, [.fixed (name ++ boolText b')]⟩) : b = b' := by
  have width := congrArg (fun line => line.2.length) same
  cases b <;> cases b' <;> simp [outline, text, LinePart.chars, boolText] at width ⊢

/-! ## Events -/

namespace Event

/-- The branches of an event can be told from its lines. -/
theorem limited_inj {name : String} {branches branches' : List String}
    (same : (Event.lines.limited name branches).map outline =
      (Event.lines.limited name branches').map outline) : branches = branches' := by
  cases branches with
  | nil =>
    cases branches' with
    | nil => rfl
    | cons branch' branches' => exact absurd (List.cons.inj same).1 (bare_ne_heading name)
  | cons branch branches =>
    cases branches' with
    | nil => exact absurd (List.cons.inj same).1.symm (bare_ne_heading name)
    | cons branch' branches' =>
      exact flow_outline_inj (List.cons.inj (List.cons.inj same).2).1

/-- The third letter of an event's name, which is another one for each kind of event. -/
def mark : Event → Char
  | push _ => 's'
  | pullRequest _ => 'l'
  | schedule _ => 'h'
  | workflowDispatch => 'r'

/-- The kind of an event can be told from its first line. -/
theorem mark_lines (e : Event) :
    ((e.lines.map outline).head?.bind fun line => line.2[2]?) = some e.mark := by
  cases e with
  | push branches => cases branches <;> rfl
  | pullRequest branches => cases branches <;> rfl
  | schedule crons => rfl
  | workflowDispatch => rfl

/-- An event can be told from its lines. -/
theorem lines_inj (e e' : Event) (same : e.lines.map outline = e'.lines.map outline) : e = e' := by
  have marks : some e.mark = some e'.mark := by
    rw [← mark_lines, ← mark_lines, same]
  cases e with
  | push branches =>
    cases e' with
    | push branches' => exact congrArg push (limited_inj same)
    | _ => cases marks
  | pullRequest branches =>
    cases e' with
    | pullRequest branches' => exact congrArg pullRequest (limited_inj same)
    | _ => cases marks
  | schedule crons =>
    cases e' with
    | schedule crons' =>
      exact congrArg schedule
        (map_outline_inj (fun _ _ => quoted_outline_inj) (List.cons.inj same).2)
    | _ => cases marks
  | workflowDispatch =>
    cases e' with
    | workflowDispatch => rfl
    | _ => cases marks

/-- The lines of an event are an entry. -/
theorem isEntry_lines (e : Event) : IsEntry 1 e.lines := by
  have limited : ∀ name branches, IsEntry 1 (Event.lines.limited name branches) := by
    intro name branches
    cases branches with
    | nil => exact ⟨_, [], rfl, rfl, by simp⟩
    | cons branch branches => exact ⟨_, [_], rfl, rfl, by simp⟩
  cases e with
  | push branches => exact limited _ _
  | pullRequest branches => exact limited _ _
  | schedule crons => exact ⟨_, _, rfl, rfl, by simp⟩
  | workflowDispatch => exact ⟨_, [], rfl, rfl, by simp⟩

/-- The lines of an event are tidy. -/
theorem allTidy_lines (e : Event) : AllTidy e.lines := by
  cases e with
  | push branches => cases branches with
    | nil => exact allTidy_nil.cons rfl
    | cons branch branches => exact (allTidy_nil.cons rfl).cons rfl
  | pullRequest branches => cases branches with
    | nil => exact allTidy_nil.cons rfl
    | cons branch branches => exact (allTidy_nil.cons rfl).cons rfl
  | schedule crons => exact (allTidy_map fun _ => rfl).cons rfl
  | workflowDispatch => exact allTidy_nil.cons rfl

end Event

/-! ## Jobs -/

namespace WorkflowStep

/-- A step can be told from its lines. -/
theorem lines_inj (s s' : WorkflowStep) (same : s.lines.map outline = s'.lines.map outline) :
    s = s' := by
  obtain ⟨name, inputs⟩ := s
  obtain ⟨name', inputs'⟩ := s'
  have names : name = name' := scalar_outline_inj (List.cons.inj same).1
  have others := (List.cons.inj same).2
  have all : inputs = inputs' := by
    cases inputs with
    | nil =>
      cases inputs' with
      | nil => rfl
      | cons input' inputs' => cases others
    | cons input inputs =>
      cases inputs' with
      | nil => cases others
      | cons input' inputs' =>
        exact map_outline_inj (fun _ _ entry => Prod.ext_iff.mpr (entry_outline_inj entry))
          (List.cons.inj others).2
  rw [names, all]

/-- The lines of a step are an entry. -/
theorem isEntry_lines (s : WorkflowStep) : IsEntry 3 s.lines := by
  refine ⟨_, _, rfl, rfl, fun line member => ?_⟩
  by_cases bare : s.inputs.isEmpty = true
  · rw [if_pos bare] at member
    cases member
  · rw [if_neg bare] at member
    rcases List.mem_cons.mp member with rfl | later
    · decide
    · obtain ⟨input, -, rfl⟩ := List.mem_map.mp later
      exact (by decide : 3 < 5)

/-- The lines of a step are tidy. -/
theorem allTidy_lines (s : WorkflowStep) : AllTidy s.lines := by
  refine AllTidy.cons rfl ?_
  by_cases bare : s.inputs.isEmpty = true
  · rw [if_pos bare]
    exact allTidy_nil
  · rw [if_neg bare]
    exact (allTidy_map fun _ => rfl).cons rfl

end WorkflowStep

namespace WorkflowJob

/-- The lines of a condition. -/
def conditionLines (condition : Option String) : List DocumentLine :=
  condition.toList.map fun condition => ⟨2, [.fixed "if: ", .quoted condition]⟩

/-- The lines of steps. -/
def stepsLines (steps : List WorkflowStep) : List DocumentLine :=
  sectionLines ⟨2, [.fixed "steps: []"]⟩ ⟨2, [.fixed "steps:"]⟩ (steps.flatMap WorkflowStep.lines)

/-- The lines of needs. -/
def needsLines (needs : List String) : List DocumentLine :=
  if needs.isEmpty then [] else [⟨2, [.fixed "needs: ", .flow needs]⟩]

/-- The lines of a job, its parts told apart. -/
theorem lines_eq (j : WorkflowJob) :
    j.lines = ⟨1, [.scalar j.name, .fixed ":"]⟩ ::
      ⟨2, [.fixed "description: ", .quoted j.description]⟩ ::
      ⟨2, [.fixed ("continue-on-error: " ++ boolText j.continueOnError)]⟩ ::
      (conditionLines j.condition ++ (stepsLines j.steps ++ needsLines j.needs)) := by
  have steps : stepsLines j.steps =
      if j.steps.isEmpty then [⟨2, [.fixed "steps: []"]⟩]
      else ⟨2, [.fixed "steps:"]⟩ :: j.steps.flatMap WorkflowStep.lines := by
    cases j.steps with
    | nil => rfl
    | cons s steps => rfl
  rw [steps, WorkflowJob.lines, List.append_assoc, List.append_assoc]
  rfl

/-- A condition can be told from the first lines after those that every job has. -/
theorem condition_append_inj {condition condition' : Option String}
    {steps steps' : List WorkflowStep} {rest rest' : List (Nat × List Char)}
    (same : (conditionLines condition).map outline ++ ((stepsLines steps).map outline ++ rest) =
      (conditionLines condition').map outline ++ ((stepsLines steps').map outline ++ rest')) :
    condition = condition' ∧
      (stepsLines steps).map outline ++ rest = (stepsLines steps').map outline ++ rest' := by
  -- Lines of steps do not start as one of a condition does.
  have apart : ∀ condition steps (before rest rest' : List (Nat × List Char)),
      (conditionLines (some condition)).map outline ++ before ++ rest ≠
        (stepsLines steps).map outline ++ rest' := by
    intro condition steps before rest rest' same
    have letters := congrArg (fun lines => lines.head?.bind fun line => line.2.head?) same
    cases steps with
    | nil => cases letters
    | cons s steps => cases letters
  cases condition with
  | none =>
    cases condition' with
    | none => exact ⟨rfl, same⟩
    | some condition' => exact absurd same.symm (apart condition' steps [] _ _)
  | some condition =>
    cases condition' with
    | none => exact absurd same (apart condition steps' [] _ _)
    | some condition' =>
      obtain ⟨first, others⟩ := List.cons.inj same
      exact ⟨congrArg some (quoted_outline_inj first), others⟩

/-- The lines of steps are deeper than that which says that there are some. -/
theorem deeper_steps (steps : List WorkflowStep) :
    ∀ line ∈ steps.flatMap WorkflowStep.lines, 2 < line.depth :=
  deeper_entries WorkflowStep.isEntry_lines (by decide) steps

/-- Steps can be told from their lines. -/
theorem steps_append_inj {steps steps' : List WorkflowStep} {rest rest' : List (Nat × List Char)}
    (ends : ∀ line ∈ rest.head?, line.1 ≤ 2) (ends' : ∀ line ∈ rest'.head?, line.1 ≤ 2)
    (same : (stepsLines steps).map outline ++ rest = (stepsLines steps').map outline ++ rest') :
    steps = steps' ∧ rest = rest' := by
  have apart : outline ⟨2, [.fixed "steps: []"]⟩ ≠ outline ⟨2, [.fixed "steps:"]⟩ := by decide
  obtain ⟨entries, others⟩ := section_append_inj apart (deeper_steps steps) (deeper_steps steps')
    ends ends' same
  exact ⟨entries_inj WorkflowStep.isEntry_lines WorkflowStep.lines_inj entries, others⟩

/-- Needs can be told from their lines. -/
theorem needs_inj {needs needs' : List String}
    (same : (needsLines needs).map outline = (needsLines needs').map outline) : needs = needs' := by
  cases needs with
  | nil =>
    cases needs' with
    | nil => rfl
    | cons need' needs' => cases same
  | cons need needs =>
    cases needs' with
    | nil => cases same
    | cons need' needs' => exact flow_outline_inj (List.cons.inj same).1

/-- The lines of needs are no deeper than those around them. -/
theorem needs_ends (needs : List String) :
    ∀ line ∈ ((needsLines needs).map outline).head?, line.1 ≤ 2 := by
  intro line first
  cases needs with
  | nil => cases first
  | cons need needs =>
    cases first
    exact Nat.le_refl 2

/-- A job can be told from its lines. -/
theorem lines_inj (j j' : WorkflowJob) (same : j.lines.map outline = j'.lines.map outline) :
    j = j' := by
  rw [lines_eq, lines_eq] at same
  obtain ⟨names, same⟩ := List.cons.inj same
  obtain ⟨descriptions, same⟩ := List.cons.inj same
  obtain ⟨failures, same⟩ := List.cons.inj same
  rw [List.map_append, List.map_append, List.map_append, List.map_append] at same
  obtain ⟨conditions, same⟩ := condition_append_inj same
  obtain ⟨steps, needs⟩ := steps_append_inj (needs_ends _) (needs_ends _) same
  obtain ⟨name, description, continueOnError, condition, jobSteps, jobNeeds⟩ := j
  obtain ⟨name', description', continueOnError', condition', jobSteps', jobNeeds'⟩ := j'
  cases heading_outline_inj names
  cases quoted_outline_inj descriptions
  cases boolText_outline_inj failures
  cases conditions
  cases steps
  cases needs_inj needs
  rfl

/-- The lines of a job are an entry. -/
theorem isEntry_lines (j : WorkflowJob) : IsEntry 1 j.lines := by
  have condition : ∀ line ∈ conditionLines j.condition, 1 < line.depth := by
    intro line member
    obtain ⟨text, -, rfl⟩ := List.mem_map.mp member
    exact (by decide : 1 < 2)
  have steps : ∀ line ∈ stepsLines j.steps, 1 < line.depth := by
    refine forall_mem_section (by decide) (by decide) fun line member => ?_
    have deep := deeper_steps j.steps line member
    omega
  have needs : ∀ line ∈ needsLines j.needs, 1 < line.depth := by
    intro line member
    unfold needsLines at member
    by_cases bare : j.needs.isEmpty = true
    · rw [if_pos bare] at member
      cases member
    · rw [if_neg bare] at member
      rw [List.mem_singleton.mp member]
      exact (by decide : 1 < 2)
  refine ⟨_, _, j.lines_eq, rfl, ?_⟩
  rw [List.forall_mem_cons, List.forall_mem_cons, List.forall_mem_append, List.forall_mem_append]
  exact ⟨(by decide : 1 < 2), (by decide : 1 < 2), condition, steps, needs⟩

/-- The lines of a job are tidy. -/
theorem allTidy_lines (j : WorkflowJob) : AllTidy j.lines := by
  have condition : AllTidy (conditionLines j.condition) := allTidy_map fun _ => rfl
  have steps : AllTidy (stepsLines j.steps) :=
    forall_mem_section rfl rfl (allTidy_flatMap WorkflowStep.allTidy_lines)
  have needs : AllTidy (needsLines j.needs) := by
    unfold needsLines
    cases j.needs with
    | nil => exact allTidy_nil
    | cons need needs => exact allTidy_nil.cons rfl
  rw [lines_eq]
  have failure : DocumentLine.hasTidyParts
      ⟨2, [.fixed ("continue-on-error: " ++ boolText j.continueOnError)]⟩ = true := by
    cases j.continueOnError <;> rfl
  exact (((condition.append (steps.append needs)).cons failure).cons rfl).cons rfl

end WorkflowJob

/-! ## Workflows -/

namespace Workflow

/-- The line of a variable. -/
def envLine (var : String × String) : DocumentLine :=
  ⟨1, [.scalar var.1, .fixed ": ", .quoted var.2]⟩

/-- The lines of variables are deeper than their section. -/
theorem deeper_env (env : List (String × String)) :
    ∀ line ∈ env.map envLine, 0 < line.depth := by
  intro line member
  obtain ⟨var, -, rfl⟩ := List.mem_map.mp member
  exact Nat.one_pos

/-- The entries of an outlined section can be told from its lines, and so can what follows. -/
theorem outlined_append_inj {name : String} {entries entries' : List DocumentLine}
    {rest rest' : List (Nat × List Char)} (deeper : ∀ line ∈ entries, 0 < line.depth)
    (deeper' : ∀ line ∈ entries', 0 < line.depth) (ends : ∀ line ∈ rest.head?, line.1 ≤ 0)
    (ends' : ∀ line ∈ rest'.head?, line.1 ≤ 0)
    (same : (outlined name entries).map outline ++ rest =
      (outlined name entries').map outline ++ rest') :
    entries.map outline = entries'.map outline ∧ rest = rest' :=
  section_append_inj (bare_ne_heading name) deeper deeper' ends ends' same

/-- The lines of a workflow are tidy. -/
theorem allTidy_lines (w : Workflow) : AllTidy w.lines := by
  have events : AllTidy (outlined "on" (w.events.flatMap Event.lines)) :=
    forall_mem_section rfl rfl (allTidy_flatMap Event.allTidy_lines)
  have jobs : AllTidy (outlined "jobs" (w.jobs.flatMap WorkflowJob.lines)) :=
    forall_mem_section rfl rfl (allTidy_flatMap WorkflowJob.allTidy_lines)
  have env : AllTidy (outlined "env" (w.env.map envLine)) :=
    forall_mem_section rfl rfl (allTidy_map fun _ => rfl)
  have blank : AllTidy [.blank] := allTidy_nil.cons rfl
  have head : AllTidy [⟨0, [.fixed "name: ", .scalar w.name]⟩,
      ⟨0, [.fixed ("concurrent: " ++ boolText w.concurrent)]⟩, .blank] := by
    refine AllTidy.cons rfl (AllTidy.cons ?_ blank)
    cases w.concurrent <;> rfl
  exact ((((head.append events).append blank).append jobs).append blank).append env

/-- The outlines of a workflow's lines, its sections told apart. -/
theorem outlines_eq (w : Workflow) :
    w.lines.map outline =
      outline ⟨0, [.fixed "name: ", .scalar w.name]⟩ ::
      outline ⟨0, [.fixed ("concurrent: " ++ boolText w.concurrent)]⟩ :: outline .blank ::
      ((outlined "on" (w.events.flatMap Event.lines)).map outline ++ outline .blank ::
        ((outlined "jobs" (w.jobs.flatMap WorkflowJob.lines)).map outline ++ outline .blank ::
          ((outlined "env" (w.env.map envLine)).map outline ++ []))) := by
  simp only [lines, List.map_append, List.append_assoc, List.append_nil, List.map_cons,
    List.cons_append, List.nil_append]
  rfl

/-- A workflow can be told from the characters of its document. -/
theorem chars_inj {w w' : Workflow} (same : w.chars = w'.chars) : w = w' := by
  have isTidy : ∀ w : Workflow, ∀ line ∈ w.lines, line.IsTidy := fun w line member =>
    isTidy_of_hasTidyParts (w.allTidy_lines line member)
  have same := outline_eq_of_chars_eq (isTidy w) (isTidy w') same
  rw [outlines_eq, outlines_eq] at same
  obtain ⟨names, same⟩ := List.cons.inj same
  obtain ⟨concurrency, same⟩ := List.cons.inj same
  obtain ⟨-, same⟩ := List.cons.inj same
  have blank : ∀ rest : List (Nat × List Char),
      ∀ line ∈ (outline .blank :: rest).head?, line.1 ≤ 0 := by
    rintro rest line ⟨⟩
    exact Nat.le_refl 0
  have deeperEvents := deeper_entries Event.isEntry_lines Nat.one_pos
  have deeperJobs := deeper_entries WorkflowJob.isEntry_lines Nat.one_pos
  obtain ⟨events, same⟩ := outlined_append_inj (deeperEvents _) (deeperEvents _) (blank _)
    (blank _) same
  obtain ⟨jobs, same⟩ := outlined_append_inj (deeperJobs _) (deeperJobs _) (blank _) (blank _)
    (List.cons.inj same).2
  obtain ⟨env, -⟩ := outlined_append_inj (deeper_env _) (deeper_env _) (by simp) (by simp)
    (List.cons.inj same).2
  obtain ⟨name, concurrent, wEvents, wJobs, wEnv⟩ := w
  obtain ⟨name', concurrent', wEvents', wJobs', wEnv'⟩ := w'
  cases scalar_outline_inj names
  cases boolText_outline_inj concurrency
  cases entries_inj Event.isEntry_lines Event.lines_inj events
  cases entries_inj WorkflowJob.isEntry_lines WorkflowJob.lines_inj jobs
  cases map_outline_inj (fun _ _ entry => Prod.ext_iff.mpr (entry_outline_inj entry)) env
  rfl

/-- A workflow can be told from its document. -/
theorem document_inj {w w' : Workflow} (same : w.document = w'.document) : w = w' :=
  chars_inj (String.ofList_injective same)

end Workflow

end Pipewright
