import Pipewright.Proofs.Workflow.NormalForm

/-!
# The characters of a document

YAML admits printable characters only. What may be written bare is printable, and between quotes
control characters are escaped. That leaves the last two characters of the basic plane, which are no
control characters and not printable either: where one of them stands in a text of a pipeline, it
stands in the document. So these are the characters of a document that YAML does not admit
(`Pipeline.document_unprintable_iff`).
-/
namespace Pipewright

namespace Yaml

/-- Whether a character is one of those that YAML prints. -/
def isPrintable (c : Char) : Bool :=
  c == '\t' || c == '\n' || c == '\r' || (0x20 ≤ c.toNat && c.toNat ≤ 0x7E) || c.toNat == 0x85 ||
    (0xA0 ≤ c.toNat && c.toNat ≤ 0xD7FF) || (0xE000 ≤ c.toNat && c.toNat ≤ 0xFFFD) ||
    0x10000 ≤ c.toNat

/-- Whether a character is one of the last two of the basic plane. -/
def isLastOfPlane (c : Char) : Bool := c.toNat == 0xFFFE || c.toNat == 0xFFFF

/-- The last characters of the plane are not printable. -/
theorem isPrintable_of_isLastOfPlane {c : Char} (last : isLastOfPlane c = true) :
    isPrintable c = false := by
  have value : c.toNat = 0xFFFE ∨ c.toNat = 0xFFFF := by simpa [isLastOfPlane] using last
  have layout : c ≠ '\t' ∧ c ≠ '\n' ∧ c ≠ '\r' := by
    refine ⟨?_, ?_, ?_⟩ <;> rintro rfl <;> exact absurd last (by decide)
  simp only [isPrintable, layout, Bool.or_eq_false_iff, Bool.and_eq_false_imp, decide_eq_true_eq,
    decide_eq_false_iff_not, beq_eq_false_iff_ne, ne_eq, not_false_eq_true, true_and]
  omega

/-- A character that is not printable is a control character or one of the last of the plane. -/
theorem isControl_or_isLastOfPlane {c : Char} (unprintable : isPrintable c = false) :
    Scalar.isControl c = true ∨ isLastOfPlane c = true := by
  -- No character has a value from 0xD800 to 0xDFFF.
  have valid : c.toNat < 0xD800 ∨ 0xDFFF < c.toNat ∧ c.toNat < 0x110000 := c.valid
  simp only [isPrintable, Bool.or_eq_false_iff, Bool.and_eq_false_imp, decide_eq_true_eq,
    decide_eq_false_iff_not, beq_eq_false_iff_ne, ne_eq] at unprintable
  simp only [Scalar.isControl, isLastOfPlane, Bool.or_eq_true, Bool.and_eq_true, decide_eq_true_eq,
    beq_iff_eq]
  omega

/-- A character that is not printable is none that is. -/
theorem ne_of_isPrintable {c d : Char} (unprintable : isPrintable c = false)
    (printed : isPrintable d = true) : c ≠ d := by
  rintro rfl
  rw [unprintable] at printed
  cases printed

/-- It does not stand in a text of such characters. -/
theorem not_mem_of_isPrintable {c : Char} {cs : List Char} (unprintable : isPrintable c = false)
    (printed : cs.all isPrintable = true) : c ∉ cs := fun member =>
  ne_of_isPrintable unprintable (List.all_eq_true.mp printed c member) rfl

end Yaml

open Yaml

/-! ## Scalars -/

namespace Scalar

variable {c : Char} {text : String} {items : List String}

/-- A hexadecimal digit is printable. -/
theorem isPrintable_hexDigit : ∀ n < 16, isPrintable (hexDigit n) = true := by decide

/-- Whatever may stand in a bare scalar is printable. -/
theorem isPrintable_of_mayFollow (follows : mayFollow c = true) : isPrintable c = true := by
  have small : 0x20 ≤ c.toNat ∧ c.toNat ≤ 0x7E := by
    simp only [mayFollow, isAlphanumeric, Bool.or_eq_true, Bool.and_eq_true, decide_eq_true_eq,
      beq_iff_eq, Char.le_def, UInt32.le_iff_toNat_le] at follows
    have value : c.toNat = c.val.toNat := rfl
    rcases follows with (((letter | rfl) | rfl) | rfl) | rfl
    · simp at letter
      omega
    all_goals decide
  simp [isPrintable, small]

/-- Of the characters that are not printable, a quoted one is written as it is if it is one of the
last of the plane, and the others are never written. -/
theorem mem_escape_iff {d : Char} (unprintable : isPrintable d = false) :
    d ∈ escape c ↔ isLastOfPlane d = true ∧ d = c := by
  -- A character that is written otherwise is none of the last of the plane.
  have escaped {cs : List Char} (all : cs.all isPrintable = true)
      (other : isLastOfPlane c = false) : d ∈ cs ↔ isLastOfPlane d = true ∧ d = c := by
    refine ⟨fun member => absurd member (not_mem_of_isPrintable unprintable all), ?_⟩
    rintro ⟨last, rfl⟩
    rw [other] at last
    cases last
  unfold escape
  by_cases quote : c = '"'
  · subst quote; exact escaped (by decide) (by decide)
  by_cases slash : c = '\\'
  · subst slash; exact escaped (by decide) (by decide)
  by_cases lineEnd : c = '\n'
  · subst lineEnd; exact escaped (by decide) (by decide)
  by_cases carriageReturn : c = '\r'
  · subst carriageReturn; exact escaped (by decide) (by decide)
  by_cases tab : c = '\t'
  · subst tab; exact escaped (by decide) (by decide)
  rw [if_neg quote, if_neg slash, if_neg lineEnd, if_neg carriageReturn, if_neg tab]
  by_cases control : isControl c = true
  · have small := toNat_lt_of_isControl control
    have high := isPrintable_hexDigit (c.toNat / 16) (by omega)
    have low := isPrintable_hexDigit (c.toNat % 16) (by omega)
    have fixed : ['\\', 'u', '0'].all isPrintable = true := by decide
    rw [if_pos control]
    refine escaped ?_ ?_
    · simpa [high, low] using fixed
    · simp only [isLastOfPlane, Bool.or_eq_false_iff, beq_eq_false_iff_ne]
      omega
  · rw [if_neg control, List.mem_singleton]
    refine ⟨?_, And.right⟩
    rintro rfl
    exact ⟨(isControl_or_isLastOfPlane unprintable).resolve_left control, rfl⟩

/-- The characters of a quoted text that are not printable are the last of the plane in the text. -/
theorem mem_quoted_iff (unprintable : isPrintable c = false) :
    c ∈ quoted text ↔ isLastOfPlane c = true ∧ c ∈ text.toList := by
  have quote : c ≠ '"' := ne_of_isPrintable unprintable (by decide)
  simp only [quoted, List.mem_cons, List.mem_append, List.mem_flatMap, mem_escape_iff unprintable,
    quote, List.not_mem_nil, or_false, false_or]
  constructor
  · rintro ⟨_, member, last, rfl⟩
    exact ⟨last, member⟩
  · rintro ⟨last, member⟩
    exact ⟨c, member, last, rfl⟩

/-- Nor are those of a scalar any others, bare or quoted. -/
theorem mem_scalar_iff (unprintable : isPrintable c = false) :
    c ∈ scalar text ↔ isLastOfPlane c = true ∧ c ∈ text.toList := by
  unfold scalar
  by_cases plain : isPlain text = true
  · have absent : c ∉ text.toList := fun member => ne_of_isPrintable unprintable
      (isPrintable_of_mayFollow (mayFollow_of_isPlain plain c member)) rfl
    simp [plain, absent]
  · rw [if_neg plain]
    exact mem_quoted_iff unprintable

/-- Nor are those of scalars with commas between them. -/
theorem mem_separated_iff (unprintable : isPrintable c = false) :
    c ∈ separated items ↔ isLastOfPlane c = true ∧ ∃ text ∈ items, c ∈ text.toList := by
  have marks : c ≠ ',' ∧ c ≠ ' ' :=
    ⟨ne_of_isPrintable unprintable (by decide), ne_of_isPrintable unprintable (by decide)⟩
  induction items with
  | nil => simp [separated]
  | cons item items ih =>
    cases items with
    | nil => simp [separated, mem_scalar_iff unprintable]
    | cons next items =>
      have listed : separated (item :: next :: items) =
          scalar item ++ ',' :: ' ' :: separated (next :: items) := rfl
      simp only [listed, List.mem_append, List.mem_cons (a := c), marks, false_or, ih,
        mem_scalar_iff unprintable]
      generalize next :: items = later
      simp [and_or_left]

/-- Nor are those of a list of scalars. -/
theorem mem_flow_iff (unprintable : isPrintable c = false) :
    c ∈ flow items ↔ isLastOfPlane c = true ∧ ∃ text ∈ items, c ∈ text.toList := by
  have marks : c ≠ '[' ∧ c ≠ ']' :=
    ⟨ne_of_isPrintable unprintable (by decide), ne_of_isPrintable unprintable (by decide)⟩
  simp [flow, marks, mem_separated_iff unprintable]

end Scalar

/-! ## Lines -/

/-- The texts of a part. -/
def LinePart.texts : LinePart → List String
  | fixed _ => []
  | scalar text => [text]
  | quoted text => [text]
  | flow items => items

/-- Whether fixed text is printable; of other parts nothing is asked. -/
def LinePart.isPrinted : LinePart → Bool
  | fixed text => text.toList.all isPrintable
  | _ => true

/-- Whether lines have fixed text that is printable, and other texts that are these. -/
structure Write (texts : List String) (lines : List DocumentLine) : Prop where
  /-- Fixed text is printable. -/
  printed : ∀ line ∈ lines, line.parts.all LinePart.isPrinted = true
  /-- The other texts are these. -/
  texts_eq : lines.flatMap (fun line => line.parts.flatMap LinePart.texts) = texts

section Lines

variable {α : Type} {c : Char} {line : DocumentLine} {lines others : List DocumentLine}
  {texts more : List String}

/-- The characters of a part that are not printable are the last of the plane in its texts. -/
theorem LinePart.mem_chars_iff {part : LinePart} (printed : part.isPrinted = true)
    (unprintable : isPrintable c = false) :
    c ∈ part.chars ↔ isLastOfPlane c = true ∧ ∃ text ∈ part.texts, c ∈ text.toList := by
  cases part with
  | fixed text =>
    have absent : c ∉ text.toList := not_mem_of_isPrintable unprintable printed
    simp [chars, texts, absent]
  | scalar text => simpa [chars, texts] using Scalar.mem_scalar_iff unprintable
  | quoted text => simpa [chars, texts] using Scalar.mem_quoted_iff unprintable
  | flow items => exact Scalar.mem_flow_iff unprintable

/-- The characters of lines that are not printable are the last of the plane in their texts. -/
theorem Write.mem_chars_iff (write : Write texts lines) (unprintable : isPrintable c = false) :
    c ∈ lines.flatMap DocumentLine.chars ↔
      isLastOfPlane c = true ∧ ∃ text ∈ texts, c ∈ text.toList := by
  have marks : c ≠ ' ' ∧ c ≠ '\n' :=
    ⟨ne_of_isPrintable unprintable (by decide), ne_of_isPrintable unprintable (by decide)⟩
  have one : ∀ line ∈ lines, c ∈ line.chars ↔ ∃ part ∈ line.parts,
      isLastOfPlane c = true ∧ ∃ text ∈ part.texts, c ∈ text.toList := by
    intro line member
    have printed := List.all_eq_true.mp (write.printed line member)
    simp only [DocumentLine.chars, List.mem_append, List.mem_replicate, List.mem_flatMap,
      List.mem_singleton, marks, and_false, false_or, or_false]
    exact exists_congr fun part => and_congr_right fun isPart =>
      LinePart.mem_chars_iff (printed part isPart) unprintable
  rw [← write.texts_eq, List.mem_flatMap]
  constructor
  · rintro ⟨line, member, inside⟩
    obtain ⟨part, isPart, last, text, isText, found⟩ := (one line member).mp inside
    exact ⟨last, text, List.mem_flatMap.mpr ⟨line, member, List.mem_flatMap.mpr
      ⟨part, isPart, isText⟩⟩, found⟩
  · rintro ⟨last, text, isText, found⟩
    obtain ⟨line, member, isText⟩ := List.mem_flatMap.mp isText
    obtain ⟨part, isPart, isText⟩ := List.mem_flatMap.mp isText
    exact ⟨line, member, (one line member).mpr ⟨part, isPart, last, text, isText, found⟩⟩

/-- No lines write no texts. -/
theorem write_nil : Write [] [] := ⟨fun _ member => absurd member List.not_mem_nil, rfl⟩

/-- A line writes its texts. -/
theorem write_line (printed : line.parts.all LinePart.isPrinted = true)
    (same : line.parts.flatMap LinePart.texts = texts) : Write texts [line] where
  printed := List.forall_mem_singleton.mpr printed
  texts_eq := by rw [List.flatMap_singleton, same]

/-- A line that ends with a list of names writes these. -/
theorem write_flow {depth : Nat} {fixed : String} (items : List String)
    (printed : (LinePart.fixed fixed).isPrinted = true) :
    Write items [⟨depth, [.fixed fixed, .flow items]⟩] := by
  refine write_line (by simpa using ⟨printed, rfl⟩) ?_
  simp [LinePart.texts]

/-- Lines after lines write texts after texts. -/
theorem Write.append (first : Write texts lines) (second : Write more others) :
    Write (texts ++ more) (lines ++ others) where
  printed := List.forall_mem_append.mpr ⟨first.printed, second.printed⟩
  texts_eq := by rw [List.flatMap_append, first.texts_eq, second.texts_eq]

/-- The lines of things write the texts of each. -/
theorem write_flatMap {write : α → List DocumentLine} {texts : α → List String}
    (each : ∀ item, Write (texts item) (write item)) (items : List α) :
    Write (items.flatMap texts) (items.flatMap write) := by
  induction items with
  | nil => exact write_nil
  | cons item items ih =>
    rw [List.flatMap_cons, List.flatMap_cons]
    exact (each item).append ih

/-- A line that ends with a truth value writes nothing else. -/
theorem write_truth {depth : Nat} {fixed : String}
    (printed : ∀ b, (LinePart.fixed (fixed ++ boolText b)).isPrinted = true) (b : Bool) :
    Write [] [⟨depth, [.fixed (fixed ++ boolText b)]⟩] :=
  write_line (List.all_eq_true.mpr (List.forall_mem_singleton.mpr (printed b))) rfl

/-- Lines of one shape write the texts of each. -/
theorem write_map {write : α → DocumentLine} {texts : α → List String}
    (each : ∀ item, Write (texts item) [write item]) (items : List α) :
    Write (items.flatMap texts) (items.map write) := by
  rw [List.map_eq_flatMap]
  exact write_flatMap each items

/-- A section writes the texts of its entries. -/
theorem Write.section {bare heading : DocumentLine} (entries : Write texts lines)
    (bareWrites : Write [] [bare]) (headingWrites : Write [] [heading]) :
    Write texts (sectionLines bare heading lines) := by
  cases lines with
  | nil =>
    have none : texts = [] := entries.texts_eq.symm
    exact none ▸ bareWrites
  | cons first rest => exact headingWrites.append entries

end Lines

/-! ## The texts of a workflow -/

/-- The texts of an event: its branches or its times. -/
def Event.texts : Event → List String
  | push branches => branches
  | pullRequest branches => branches
  | schedule crons => crons
  | workflowDispatch => []

/-- The texts of a step: its name, and the key and the value of each input. -/
def WorkflowStep.texts (s : WorkflowStep) : List String :=
  s.name :: s.inputs.flatMap fun input => [input.1, input.2]

/-- The texts of a job: its name, its description, its condition, those of its steps, and the names
of the jobs that it needs. -/
def WorkflowJob.texts (j : WorkflowJob) : List String :=
  [j.name, j.description] ++ j.condition.toList ++ j.steps.flatMap WorkflowStep.texts ++ j.needs

/-- The texts of a workflow: its name, those of its events and jobs, and the key and the value of
each variable. -/
def Workflow.texts (w : Workflow) : List String :=
  w.name :: (w.events.flatMap Event.texts ++ w.jobs.flatMap WorkflowJob.texts ++
    w.env.flatMap fun var => [var.1, var.2])

/-- The lines of an event write its texts. -/
theorem Event.write_lines (e : Event) : Write e.texts e.lines := by
  have limited : ∀ name branches, name ∈ ["push", "pull_request"] →
      Write branches (Event.lines.limited name branches) := by
    intro name branches known
    have names : ∀ name ∈ ["push", "pull_request"],
        (LinePart.fixed (name ++ ": \x7b\x7d")).isPrinted = true ∧
          (LinePart.fixed (name ++ ":")).isPrinted = true := by decide
    obtain ⟨bare, heading⟩ := names name known
    cases branches with
    | nil => exact write_line (List.all_eq_true.mpr (List.forall_mem_singleton.mpr bare)) rfl
    | cons branch branches =>
      have first : Write [] [⟨1, [.fixed (name ++ ":")]⟩] :=
        write_line (List.all_eq_true.mpr (List.forall_mem_singleton.mpr heading)) rfl
      exact first.append (write_flow (branch :: branches) rfl)
  cases e with
  | push branches => exact limited _ _ (by decide)
  | pullRequest branches => exact limited _ _ (by decide)
  | schedule crons =>
    have heading : Write [] [⟨1, [.fixed "schedule:"]⟩] := write_line rfl rfl
    have time (cron : String) : Write [cron] [⟨2, [.fixed "- cron: ", .quoted cron]⟩] :=
      write_line rfl rfl
    have times := write_map time crons
    rw [List.flatMap_singleton'] at times
    exact heading.append times
  | workflowDispatch => exact write_line rfl rfl

/-- The lines of a step write its texts. -/
theorem WorkflowStep.write_lines (s : WorkflowStep) : Write s.texts s.lines := by
  obtain ⟨name, inputs⟩ := s
  have head : Write [name] [⟨3, [.fixed "- name: ", .scalar name]⟩] := write_line rfl rfl
  have heading : Write [] [⟨4, [.fixed "with:"]⟩] := write_line rfl rfl
  have entry (input : String × String) : Write [input.1, input.2]
      [⟨5, [.scalar input.1, .fixed ": ", .quoted input.2]⟩] := write_line rfl rfl
  cases inputs with
  | nil => exact head
  | cons input inputs =>
    exact head.append (heading.append (write_map entry (input :: inputs)))

/-- The lines of a job write its texts. -/
theorem WorkflowJob.write_lines (j : WorkflowJob) : Write j.texts j.lines := by
  have head : Write [j.name, j.description] [⟨1, [.scalar j.name, .fixed ":"]⟩,
      ⟨2, [.fixed "description: ", .quoted j.description]⟩,
      ⟨2, [.fixed ("continue-on-error: " ++ boolText j.continueOnError)]⟩] := by
    have name : Write [j.name] [⟨1, [.scalar j.name, .fixed ":"]⟩] := write_line rfl rfl
    have description :
        Write [j.description] [⟨2, [.fixed "description: ", .quoted j.description]⟩] :=
      write_line rfl rfl
    exact (name.append description).append (write_truth (by decide) j.continueOnError)
  have condition : Write j.condition.toList (conditionLines j.condition) := by
    cases j.condition with
    | none => exact write_nil
    | some condition => exact write_line rfl rfl
  have steps : Write (j.steps.flatMap WorkflowStep.texts) (stepsLines j.steps) :=
    (write_flatMap WorkflowStep.write_lines j.steps).section (write_line rfl rfl)
      (write_line rfl rfl)
  have needs : Write j.needs (needsLines j.needs) := by
    unfold needsLines
    cases j.needs with
    | nil => exact write_nil
    | cons need needs => exact write_flow (need :: needs) rfl
  have all := head.append (condition.append (steps.append needs))
  rw [lines_eq, texts, List.append_assoc, List.append_assoc]
  exact all

/-- The lines of a workflow write its texts. -/
theorem Workflow.write_lines (w : Workflow) : Write w.texts w.lines := by
  have blank : Write [] [.blank] := write_line rfl rfl
  have head : Write [w.name] [⟨0, [.fixed "name: ", .scalar w.name]⟩,
      ⟨0, [.fixed ("concurrent: " ++ boolText w.concurrent)]⟩, .blank] := by
    have name : Write [w.name] [⟨0, [.fixed "name: ", .scalar w.name]⟩] := write_line rfl rfl
    exact (name.append (write_truth (by decide) w.concurrent)).append blank
  have events : Write (w.events.flatMap Event.texts)
      (outlined "on" (w.events.flatMap Event.lines)) :=
    (write_flatMap Event.write_lines w.events).section (write_line rfl rfl) (write_line rfl rfl)
  have jobs : Write (w.jobs.flatMap WorkflowJob.texts)
      (outlined "jobs" (w.jobs.flatMap WorkflowJob.lines)) :=
    (write_flatMap WorkflowJob.write_lines w.jobs).section (write_line rfl rfl) (write_line rfl rfl)
  have entry (var : String × String) : Write [var.1, var.2] [envLine var] := write_line rfl rfl
  have env : Write (w.env.flatMap fun var => [var.1, var.2])
      (outlined "env" (w.env.map envLine)) :=
    (write_map entry w.env).section (write_line rfl rfl) (write_line rfl rfl)
  have all := ((((head.append events).append blank).append jobs).append blank).append env
  simp only [List.append_nil] at all
  exact all

/-! ## Documents -/

/-- The characters of a document that YAML does not print are the last two of the basic plane, where
a text of the pipeline has them. So all are printable exactly if no such text has one of these. -/
theorem Pipeline.document_unprintable_iff (p : Pipeline) :
    (∀ c, c ∈ (Pipeline.document (some p)).toList ∧ isPrintable c = false ↔
      isLastOfPlane c = true ∧ ∃ text ∈ p.normalForm.texts, c ∈ text.toList) ∧
    ((∀ c ∈ (Pipeline.document (some p)).toList, isPrintable c = true) ↔
      ∀ text ∈ p.normalForm.texts, ∀ c ∈ text.toList, isLastOfPlane c = false) := by
  have written : (Pipeline.document (some p)).toList =
      p.normalForm.lines.flatMap DocumentLine.chars := by
    rw [← Workflow.ofPipeline_eq]
    exact String.toList_ofList
  have unprintable : ∀ c, c ∈ (Pipeline.document (some p)).toList ∧ isPrintable c = false ↔
      isLastOfPlane c = true ∧ ∃ text ∈ p.normalForm.texts, c ∈ text.toList := by
    intro c
    rw [written]
    constructor
    · rintro ⟨member, unprintable⟩
      exact (p.normalForm.write_lines.mem_chars_iff unprintable).mp member
    · rintro ⟨last, found⟩
      have unprintable := isPrintable_of_isLastOfPlane last
      exact ⟨(p.normalForm.write_lines.mem_chars_iff unprintable).mpr ⟨last, found⟩, unprintable⟩
  refine ⟨unprintable, ?_⟩
  constructor
  · intro printable text isText c member
    refine Bool.eq_false_iff.mpr fun last => ?_
    obtain ⟨inside, other⟩ := (unprintable c).mpr ⟨last, text, isText, member⟩
    rw [printable c inside] at other
    cases other
  · intro none c member
    refine Bool.not_eq_false _ |>.mp fun other => ?_
    obtain ⟨last, text, isText, inside⟩ := (unprintable c).mp ⟨member, other⟩
    rw [none text isText c inside] at last
    cases last

/-- A pipeline whose name is such a character has a document that YAML does not admit. -/
theorem Pipeline.unprintable_name_written :
    ¬∀ c ∈ (Pipeline.document (some ⟨"\ufffe", false, []⟩)).toList, isPrintable c = true := by
  intro printable
  have written : '\ufffe' ∈ (Pipeline.document (some ⟨"\ufffe", false, []⟩)).toList := by
    decide +kernel
  exact absurd (printable _ written) (by decide)

end Pipewright
