import Pipewright.Proofs.Workflow.Document
import Pipewright.Proofs.Workflow.Written
import Pipewright.Proofs.Yaml.Block

/-!
# Documents are read back

The document of a workflow is read as the tree of the workflow (`Workflow.read_document`): every
section, job, step and entry is where it belongs, and every text is a scalar there with the same
characters. Each part of a workflow has an entry or an item of its own, and its lines make that one.
-/
namespace Pipewright

open Yaml

/-! ## Trees -/

/-- A name that is the same in all documents. -/
def word (name : String) : Yaml.Scalar := ⟨name, false⟩

/-- A quoted text. -/
def quotedNode (text : String) : Node := .scalar ⟨text, true⟩

/-- A list of names. -/
def namesNode (names : List String) : Node :=
  .sequence (names.map fun name => .scalar (Scalar.written name))

/-- A name with a quoted text. -/
def textEntry (entry : String × String) : Yaml.Scalar × Node :=
  (Scalar.written entry.1, quotedNode entry.2)

/-- What an event is limited to. -/
def Event.limits (branches : List String) : Node :=
  .mapping (if branches.isEmpty then [] else [(word "branches", namesNode branches)])

/-- The entry of an event. -/
def Event.entry : Event → Yaml.Scalar × Node
  | push branches => (word "push", limits branches)
  | pullRequest branches => (word "pull_request", limits branches)
  | schedule crons =>
    (word "schedule",
      if crons.isEmpty then .absent
      else .sequence (crons.map fun cron => .mapping [(word "cron", quotedNode cron)]))
  | workflowDispatch => (word "workflow_dispatch", .mapping [])

/-- The entries of inputs. -/
def WorkflowStep.inputEntries (s : WorkflowStep) : List (Yaml.Scalar × Node) :=
  if s.inputs.isEmpty then [] else [(word "with", .mapping (s.inputs.map textEntry))]

/-- The tree of a step. -/
def WorkflowStep.node (s : WorkflowStep) : Node :=
  .mapping ((word "name", .scalar (Scalar.written s.name)) :: s.inputEntries)

/-- The entries of a job. -/
def WorkflowJob.entries (j : WorkflowJob) : List (Yaml.Scalar × Node) :=
  (word "description", quotedNode j.description) ::
    (word "continue-on-error", .scalar (word (boolText j.continueOnError))) ::
    (j.condition.toList.map (fun condition => (word "if", quotedNode condition))
      ++ ((word "steps", .sequence (j.steps.map WorkflowStep.node)) ::
        if j.needs.isEmpty then [] else [(word "needs", namesNode j.needs)]))

/-- The entry of a job. -/
def WorkflowJob.entry (j : WorkflowJob) : Yaml.Scalar × Node :=
  (Scalar.written j.name, .mapping j.entries)

/-- The sections of a workflow. -/
def Workflow.entries (w : Workflow) : List (Yaml.Scalar × Node) :=
  [(word "name", .scalar (Scalar.written w.name)),
    (word "concurrent", .scalar (word (boolText w.concurrent))),
    (word "on", .mapping (w.events.map Event.entry)),
    (word "jobs", .mapping (w.jobs.map WorkflowJob.entry)),
    (word "env", .mapping (w.env.map textEntry))]

/-- The tree of a workflow. -/
def Workflow.node (w : Workflow) : Node := .mapping w.entries

/-! ## Values on a line -/

/-- The value that a part of a line is read as. -/
def LinePart.IsRead (part : LinePart) (value : Node) : Prop := readInline part.chars = some value

/-- A name is read back as the scalar as which it was written. -/
theorem isRead_scalar (text : String) :
    LinePart.IsRead (.scalar text) (.scalar (Scalar.written text)) := by
  have read : readScalar (Scalar.scalar text ++ []) = some (Scalar.written text, []) :=
    Scalar.readScalar_scalar text nofun
  rw [List.append_nil] at read
  exact readInline_scalar read

/-- A quoted text is read back. -/
theorem isRead_quoted (text : String) : LinePart.IsRead (.quoted text) (quotedNode text) := by
  have read := Scalar.readScalar_quoted text []
  rw [List.append_nil] at read
  exact readInline_scalar read

/-- A truth value is read as its word. -/
theorem readInline_boolText (b : Bool) :
    readInline (boolText b).toList = some (.scalar (word (boolText b))) := by
  cases b <;> rfl

/-- Names with commas between them are no fewer than their characters. -/
theorem length_le_separated (names : List String) :
    names.length ≤ (Scalar.separated names).length := by
  have filled : ∀ name, 0 < (Scalar.scalar name).length := by
    intro name
    obtain ⟨c, cs, characters, -⟩ := Scalar.exists_scalar_eq name
    rw [characters]
    exact Nat.succ_pos _
  induction names with
  | nil => exact Nat.le_refl 0
  | cons name names ih =>
    have first := filled name
    cases names with
    | nil => exact first
    | cons next names =>
      have whole : Scalar.separated (name :: next :: names) =
          Scalar.scalar name ++ ([',', ' '] ++ Scalar.separated (next :: names)) := rfl
      rw [whole, List.length_append, List.length_append, List.length_cons]
      omega

/-- Names with commas between them are read back. -/
theorem readItems_separated {names : List String} (filled : names ≠ []) {fuel : Nat}
    (enough : names.length ≤ fuel) :
    readItems fuel (Scalar.separated names ++ [']']) = some (names.map Scalar.written) := by
  induction names generalizing fuel with
  | nil => exact absurd rfl filled
  | cons name names ih =>
    cases fuel with
    | zero => cases enough
    | succ fuel =>
      cases names with
      | nil =>
        rw [readItems, Scalar.separated, Scalar.readScalar_scalar name (ends_cons rfl [])]
        rfl
      | cons next names =>
        have others := ih (List.cons_ne_nil next names) (Nat.le_of_succ_le_succ enough)
        rw [readItems, Scalar.separated_cons_append, Scalar.afterItem,
          Scalar.readScalar_scalar name (ends_cons rfl _)]
        simp [others]

/-- A list of names is read back. -/
theorem isRead_flow (names : List String) : LinePart.IsRead (.flow names) (namesNode names) := by
  by_cases empty : names = []
  · subst empty
    rfl
  have enough : names.length ≤ (Scalar.separated names ++ [']']).length := by
    have least := length_le_separated names
    rw [List.length_append]
    omega
  have items := readItems_separated empty enough
  -- The first name keeps the list from being the empty one.
  have unclosed : Scalar.separated names ++ [']'] ≠ [']'] := by
    obtain ⟨name, others, rfl⟩ := List.exists_cons_of_ne_nil empty
    rw [Scalar.separated_cons_append]
    exact Scalar.scalar_append_ne_bracket
  unfold LinePart.IsRead LinePart.chars Scalar.flow readInline
  split
  · next same => cases same
  · next same => exact absurd (List.cons.inj same).2 unclosed
  · next same =>
    rw [← (List.cons.inj same).2, items, Option.map_some, namesNode, List.map_map]
    rfl
  · next other => exact absurd rfl (other _)

/-! ## Lines -/

/-- The indentation and the text of a line. -/
def DocumentLine.margin (line : DocumentLine) : Nat × List Char := (2 * line.depth, line.text)

/-- Whether lines of a document make pieces at a depth. -/
def Makes (lines : List DocumentLine) (depth : Nat) (pieces : List Piece) : Prop :=
  Gathers (lines.map DocumentLine.margin) (2 * depth) pieces

section Lines

variable {depth deeper : Nat} {name fixed : String} {part : LinePart} {value : Node}
  {key : Yaml.Scalar} {line : DocumentLine} {lines lines' : List DocumentLine}
  {pieces pieces' : List Piece} {cs : List Char}

/-- Lines and others make the pieces of both. -/
theorem Makes.append (first : Makes lines depth pieces) (others : Makes lines' depth pieces') :
    Makes (lines ++ lines') depth (pieces ++ pieces') := by
  unfold Makes
  rw [List.map_append]
  exact Gathers.append first others

/-- The lines of several things make the pieces of all. -/
theorem makes_flatMap {α : Type} {render : α → List DocumentLine} {piece : α → Piece}
    (each : ∀ a, Makes (render a) depth [piece a]) (items : List α) :
    Makes (items.flatMap render) depth (items.map piece) := by
  unfold Makes
  rw [List.map_flatMap]
  exact gathers_flatMap each items

/-- Lines of one shape make a piece each. -/
theorem makes_map {α : Type} {render : α → DocumentLine} {piece : α → Piece}
    (each : ∀ a, Makes [render a] depth [piece a]) (items : List α) :
    Makes (items.map render) depth (items.map piece) := by
  rw [List.map_eq_flatMap]
  exact makes_flatMap each items

/-- An entry has a line. -/
theorem IsEntry.ne_nil (entry : IsEntry depth lines) : lines ≠ [] := by
  obtain ⟨head, body, split, -⟩ := entry
  rw [split]
  exact List.cons_ne_nil head body

/-- A blank line makes nothing. -/
theorem makes_blank : Makes [.blank] depth [] := gathers_blank 0

/-- A line with a key and its value makes an entry. -/
theorem makes_entry (entry : readEntry line.text = some (.entry key (some value))) :
    Makes [line] line.depth [.entry key value] := gathers_entry (readMarks_entry entry _)

/-- A line with a key and deeper lines after it make an entry. -/
theorem Makes.heading (body : Makes lines deeper pieces) (deep : line.depth < deeper)
    (entry : readEntry line.text = some (.entry key none)) (whole : collect pieces = some value) :
    Makes (line :: lines) line.depth [.entry key value] :=
  Gathers.heading body (by omega) (readMarks_entry entry _) whole

/-- A line with a dash, a key and its value, and lines after it with entries below that key, make
an item. -/
theorem Makes.item {entries : List (Yaml.Scalar × Node)}
    (body : Makes lines (line.depth + 1) (entryPieces entries))
    (dash : line.text = '-' :: ' ' :: cs)
    (entry : readEntry cs = some (.entry key (some value))) :
    Makes (line :: lines) line.depth [.item (.mapping ((key, value) :: entries))] := by
  have marks := readMarks_item entry (2 * line.depth)
  rw [← dash] at marks
  exact Gathers.item body marks

/-- A section without entries, or with lines that make some, is an entry. -/
theorem makes_section {bare heading : DocumentLine} (level : bare.depth = heading.depth)
    (body : Makes lines deeper pieces) (deep : heading.depth < deeper)
    (empty : lines = [] → readEntry bare.text = some (.entry key (some value)))
    (entry : readEntry heading.text = some (.entry key none))
    (whole : lines ≠ [] → collect pieces = some value) :
    Makes (sectionLines bare heading lines) heading.depth [.entry key value] := by
  cases lines with
  | nil =>
    rw [← level]
    exact makes_entry (empty rfl)
  | cons first lines => exact body.heading deep entry (whole (List.cons_ne_nil _ _))

/-! ### Lines of one shape -/

/-- A name of the document's own, a colon and a value are an entry. -/
theorem readEntry_word (single : isWord name = true) (read : readInline cs = some value) :
    readEntry (name.toList ++ ':' :: ' ' :: cs) = some (.entry (word name) (some value)) :=
  readEntry_value (readScalar_word single (ends_cons rfl _)) read

/-- A line with a name of the document's own before a value makes an entry. -/
theorem makes_value (depth : Nat) (single : isWord name = true) (split : fixed = name ++ ": ")
    (read : part.IsRead value) :
    Makes [⟨depth, [.fixed fixed, part]⟩] depth [.entry (word name) value] := by
  have text : DocumentLine.text ⟨depth, [.fixed fixed, part]⟩ =
      name.toList ++ ':' :: ' ' :: part.chars := by
    simp [DocumentLine.text, LinePart.chars, split]
  have entry := readEntry_word single read
  rw [← text] at entry
  exact makes_entry entry

/-- A line of fixed text that is a name, a colon and a value is an entry. -/
theorem readEntry_fixed (written : String) (single : isWord name = true)
    (split : fixed = name ++ (": " ++ written)) (read : readInline written.toList = some value) :
    readEntry (DocumentLine.text ⟨depth, [.fixed fixed]⟩) =
      some (.entry (word name) (some value)) := by
  have text : DocumentLine.text ⟨depth, [.fixed fixed]⟩ =
      name.toList ++ ':' :: ' ' :: written.toList := by
    simp [DocumentLine.text, LinePart.chars, split]
  rw [text]
  exact readEntry_word single read

/-- A line of fixed text with a truth value makes an entry. -/
theorem makes_boolText (depth : Nat) (single : isWord name = true) (split : fixed = name ++ ": ")
    (b : Bool) :
    Makes [⟨depth, [.fixed (fixed ++ boolText b)]⟩] depth
      [.entry (word name) (.scalar (word (boolText b)))] := by
  have whole : fixed ++ boolText b = name ++ (": " ++ boolText b) := by
    rw [split, String.append_assoc]
  exact makes_entry (readEntry_fixed _ single whole (readInline_boolText b))

/-- A line with a name of the document's own and a colon is a heading. -/
theorem readEntry_name (single : isWord name = true) (split : fixed = name ++ ":") :
    readEntry (DocumentLine.text ⟨depth, [.fixed fixed]⟩) = some (.entry (word name) none) := by
  have text : DocumentLine.text ⟨depth, [.fixed fixed]⟩ = name.toList ++ [':'] := by
    simp [DocumentLine.text, LinePart.chars, split]
  rw [text]
  exact readEntry_heading (readScalar_word single (ends_cons rfl _))

/-- A line with a name and a quoted text makes an entry. -/
theorem makes_textEntry (depth : Nat) (entry : String × String) :
    Makes [⟨depth, [.scalar entry.1, .fixed ": ", .quoted entry.2]⟩] depth
      [.entry (textEntry entry).1 (textEntry entry).2] := by
  have text : DocumentLine.text ⟨depth, [.scalar entry.1, .fixed ": ", .quoted entry.2]⟩ =
      Scalar.scalar entry.1 ++ ':' :: ' ' :: Scalar.quoted entry.2 := by
    simp [DocumentLine.text, LinePart.chars]
  have value : readInline (Scalar.quoted entry.2) = some (quotedNode entry.2) :=
    isRead_quoted entry.2
  have read := readEntry_value (Scalar.readScalar_scalar entry.1 (ends_cons rfl _)) value
  rw [← text] at read
  exact makes_entry read

/-- A line with a name and a colon is a heading. -/
theorem readEntry_scalar (text : String) :
    readEntry (DocumentLine.text ⟨depth, [.scalar text, .fixed ":"]⟩) =
      some (.entry (Scalar.written text) none) := by
  have whole : DocumentLine.text ⟨depth, [.scalar text, .fixed ":"]⟩ =
      Scalar.scalar text ++ [':'] := by
    simp [DocumentLine.text, LinePart.chars]
  rw [whole]
  exact readEntry_heading (Scalar.readScalar_scalar text (ends_cons rfl _))

end Lines

/-! ## Parts of a workflow -/

/-- The lines of an event that may be limited to branches make its entry. -/
theorem makes_limited {name : String} (single : isWord name = true) (branches : List String) :
    Makes (Event.lines.limited name branches) 1 [.entry (word name) (Event.limits branches)] := by
  cases branches with
  | nil => exact makes_entry (readEntry_fixed "\x7b\x7d" single rfl rfl)
  | cons branch branches =>
    have body := makes_value 2 (by decide : isWord "branches" = true) rfl
      (isRead_flow (branch :: branches))
    exact body.heading Nat.one_lt_two (readEntry_name single rfl) rfl

/-- The line of a time makes an item. -/
theorem makes_cron (cron : String) :
    Makes [⟨2, [.fixed "- cron: ", .quoted cron]⟩] 2
      [.item (.mapping [(word "cron", quotedNode cron)])] := by
  have text : DocumentLine.text ⟨2, [.fixed "- cron: ", .quoted cron]⟩ =
      '-' :: ' ' :: ("cron".toList ++ ':' :: ' ' :: Scalar.quoted cron) := by
    simp [DocumentLine.text, LinePart.chars]
  have alone : Makes [] 3 (entryPieces []) := gathers_nil
  exact alone.item text (readEntry_word (by decide) (isRead_quoted cron))

/-- The lines of an event make its entry. -/
theorem Event.makes_lines (e : Event) : Makes e.lines 1 [.entry e.entry.1 e.entry.2] := by
  cases e with
  | push branches => exact makes_limited (by decide) branches
  | pullRequest branches => exact makes_limited (by decide) branches
  | schedule crons =>
    have body := makes_map makes_cron crons
    refine body.heading (by decide) (readEntry_name (by decide) rfl) ?_
    cases crons with
    | nil => rfl
    | cons cron crons => exact collect_map_item _ (List.cons_ne_nil cron crons)
  | workflowDispatch => exact makes_entry (readEntry_fixed "\x7b\x7d" (by decide) rfl rfl)

/-- The lines of a step make an item. -/
theorem WorkflowStep.makes_lines (s : WorkflowStep) : Makes s.lines 3 [.item s.node] := by
  have inputs : Makes (if s.inputs.isEmpty then []
      else ⟨4, [.fixed "with:"]⟩ ::
        s.inputs.map fun input => ⟨5, [.scalar input.1, .fixed ": ", .quoted input.2]⟩)
      4 (entryPieces s.inputEntries) := by
    unfold inputEntries
    cases s.inputs with
    | nil => exact gathers_nil
    | cons input inputs =>
      have body := makes_map (makes_textEntry 5) (input :: inputs)
      exact body.heading (by decide) (readEntry_name (by decide) rfl)
        (collect_map_entry textEntry (List.cons_ne_nil input inputs))
  have text : DocumentLine.text ⟨3, [.fixed "- name: ", .scalar s.name]⟩ =
      '-' :: ' ' :: ("name".toList ++ ':' :: ' ' :: Scalar.scalar s.name) := by
    simp [DocumentLine.text, LinePart.chars]
  exact inputs.item text (readEntry_word (by decide) (isRead_scalar s.name))

namespace WorkflowJob

/-- The lines of steps make an entry. -/
theorem makes_steps (steps : List WorkflowStep) :
    Makes (stepsLines steps) 2
      [.entry (word "steps") (.sequence (steps.map WorkflowStep.node))] := by
  have body := makes_flatMap WorkflowStep.makes_lines steps
  refine makes_section rfl body (by decide) (fun empty => ?_) (readEntry_name (by decide) rfl)
    fun filled => ?_
  · cases steps with
    | nil => exact readEntry_fixed "[]" (by decide) rfl rfl
    | cons s steps => cases empty
  · refine collect_map_item _ ?_
    rintro rfl
    exact filled rfl

/-- The lines of a condition make an entry if there is one. -/
theorem makes_condition (condition : Option String) :
    Makes (conditionLines condition) 2
      (entryPieces (condition.toList.map fun condition => (word "if", quotedNode condition))) := by
  cases condition with
  | none => exact gathers_nil
  | some condition => exact makes_value 2 (by decide) rfl (isRead_quoted condition)

/-- The lines of needs make an entry if there are any. -/
theorem makes_needs (needs : List String) :
    Makes (needsLines needs) 2
      (entryPieces (if needs.isEmpty then [] else [(word "needs", namesNode needs)])) := by
  cases needs with
  | nil => exact gathers_nil
  | cons need needs => exact makes_value 2 (by decide) rfl (isRead_flow (need :: needs))

/-- The lines of a job make its entry. -/
theorem makes_lines (j : WorkflowJob) : Makes j.lines 1 [.entry j.entry.1 j.entry.2] := by
  have description := makes_value 2 (by decide : isWord "description" = true) rfl
    (isRead_quoted j.description)
  have failure := makes_boolText 2 (by decide : isWord "continue-on-error" = true) rfl
    j.continueOnError
  have body := description.append (failure.append
    ((makes_condition j.condition).append ((makes_steps j.steps).append (makes_needs j.needs))))
  have pieces : entryPieces j.entries =
      [.entry (word "description") (quotedNode j.description)] ++
        ([.entry (word "continue-on-error") (.scalar (word (boolText j.continueOnError)))] ++
          (entryPieces (j.condition.toList.map fun text => (word "if", quotedNode text)) ++
            ([.entry (word "steps") (.sequence (j.steps.map WorkflowStep.node))] ++
              entryPieces
                (if j.needs.isEmpty then [] else [(word "needs", namesNode j.needs)])))) := by
    simp [entries, entryPieces]
  rw [lines_eq]
  rw [← pieces] at body
  exact body.heading Nat.one_lt_two (readEntry_scalar j.name)
    (collect_entryPieces (List.cons_ne_nil _ _))

end WorkflowJob

/-! ## Documents -/

namespace Workflow

/-- The lines of a section of the document make its entry. -/
theorem makes_outlined {α : Type} {name : String} (single : isWord name = true)
    {render : α → List DocumentLine} {entry : α → Yaml.Scalar × Node}
    (filled : ∀ a, render a ≠ [])
    (each : ∀ a, Makes (render a) 1 [.entry (entry a).1 (entry a).2]) (items : List α) :
    Makes (outlined name (items.flatMap render)) 0
      [.entry (word name) (.mapping (items.map entry))] := by
  have body := makes_flatMap each items
  unfold outlined
  refine makes_section rfl body Nat.one_pos (fun empty => ?_) (readEntry_name single rfl)
    fun some_line => ?_
  · cases items with
    | nil => exact readEntry_fixed "\x7b\x7d" single rfl rfl
    | cons item items => exact absurd (List.append_eq_nil_iff.mp empty).1 (filled item)
  · refine collect_map_entry entry ?_
    rintro rfl
    exact some_line rfl

/-- The lines of a workflow make its sections. -/
theorem makes_lines (w : Workflow) : Makes w.lines 0 (entryPieces w.entries) := by
  have name := makes_value 0 (by decide : isWord "name" = true) rfl
    (isRead_scalar w.name)
  have concurrency := makes_boolText 0 (by decide : isWord "concurrent" = true) rfl w.concurrent
  have events := makes_outlined (by decide : isWord "on" = true)
    (fun e => (Event.isEntry_lines e).ne_nil) Event.makes_lines w.events
  have jobs := makes_outlined (by decide : isWord "jobs" = true)
    (fun j => (WorkflowJob.isEntry_lines j).ne_nil) WorkflowJob.makes_lines w.jobs
  have env := makes_outlined (by decide : isWord "env" = true)
    (fun v => List.cons_ne_nil _ _) (makes_textEntry 1) w.env
  have whole := (((((name.append (concurrency.append makes_blank)).append events).append
    makes_blank).append jobs).append makes_blank).append env
  rw [← List.map_eq_flatMap] at whole
  exact whole

/-- The lines of a document are those that were written, and an empty one after the last. -/
theorem outlines_chars {lines : List DocumentLine} (tidy : ∀ line ∈ lines, line.IsTidy) :
    outlines (lines.flatMap DocumentLine.chars) = lines.map DocumentLine.margin ++ [(0, [])] := by
  induction lines with
  | nil => rfl
  | cons line lines ih =>
    obtain ⟨first, others⟩ := List.forall_mem_cons.mp tidy
    have unbroken : ∀ c ∈ List.replicate (2 * line.depth) ' ' ++ line.text, c ≠ '\n' := by
      intro c member
      rcases List.mem_append.mp member with space | inside
      · rw [(List.mem_replicate.mp space).2]
        decide
      · exact first.unbroken c inside
    have chars : line.chars ++ lines.flatMap DocumentLine.chars =
        (List.replicate (2 * line.depth) ' ' ++ line.text) ++
          '\n' :: lines.flatMap DocumentLine.chars := by
      simp [DocumentLine.chars, DocumentLine.text]
    rw [List.flatMap_cons, chars, outlines, splitAtChar_append unbroken, List.map_cons,
      outlineOf_append first.unspaced, ← outlines, ih others]
    rfl

/-- The document of a workflow is read as its tree. -/
theorem read_document (w : Workflow) : Yaml.read w.document = some w.node := by
  have tidy : ∀ line ∈ w.lines, line.IsTidy := fun line member =>
    DocumentLine.isTidy_of_hasTidyParts (w.allTidy_lines line member)
  have whole := Gathers.append w.makes_lines (gathers_blank 0)
  rw [List.append_nil] at whole
  rw [Yaml.read, document, String.toList_ofList, chars, outlines_chars tidy]
  exact whole.collectAt (collect_entryPieces (List.cons_ne_nil _ _))

end Workflow

end Pipewright
