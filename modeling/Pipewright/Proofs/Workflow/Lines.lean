import Pipewright.Proofs.Workflow.Scalar
import Pipewright.Workflow.Document

/-!
# Lines delimit themselves

A tidy line holds no line end and its text starts with no space, so the depth and the text of each
line can be told from the characters of a document (`outline_eq_of_chars_eq`). Depths tell where
the entries of a section end: every one has a first line at the depth of the section, and its other
lines are deeper (`entries_inj`).
-/
namespace Pipewright

namespace DocumentLine

/-- The characters of a line without its indentation and its end. -/
def text (line : DocumentLine) : List Char := line.parts.flatMap LinePart.chars

/-- The depth and the text of a line. -/
def outline (line : DocumentLine) : Nat × List Char := (line.depth, line.text)

/-- Whether a line holds no line end and its text starts with no space. -/
structure IsTidy (line : DocumentLine) : Prop where
  /-- No character ends the line. -/
  unbroken : ∀ c ∈ line.text, c ≠ '\n'
  /-- The text does not start with a space. -/
  unspaced : ∀ c ∈ line.text.head?, c ≠ ' '

/-- The characters of a line without its end. -/
def content (line : DocumentLine) : List Char := List.replicate (2 * line.depth) ' ' ++ line.text

/-- The characters of a line are its content and a line end. -/
theorem chars_eq (line : DocumentLine) : line.chars = line.content ++ ['\n'] := rfl

/-- No character of a tidy line's content ends the line. -/
theorem unbroken_content {line : DocumentLine} (tidy : line.IsTidy) :
    ∀ c ∈ line.content, c ≠ '\n' := by
  intro c member
  rcases List.mem_append.mp member with space | inside
  · rw [(List.mem_replicate.mp space).2]
    decide
  · exact tidy.unbroken c inside

/-- The depth and the text of a tidy line can be told from its characters, and so can what follows
them. -/
theorem chars_append_inj {line line' : DocumentLine} {rest rest' : List Char} (tidy : line.IsTidy)
    (tidy' : line'.IsTidy) (same : line.chars ++ rest = line'.chars ++ rest') :
    line.outline = line'.outline ∧ rest = rest' := by
  have whole : ∀ (line : DocumentLine) (rest : List Char), line.chars ++ rest =
      line.content ++ '\n' :: rest := by
    intro line rest
    rw [chars_eq, List.append_assoc]
    rfl
  have ends : ∀ (rest : List Char), ∀ c ∈ ('\n' :: rest).head?, ¬c ≠ '\n' := by
    rintro rest c ⟨⟩ other
    exact other rfl
  -- The first line end ends the line, and the first character that is no space its indentation.
  rw [whole, whole] at same
  obtain ⟨contents, ending⟩ := run_append_inj (unbroken_content tidy) (unbroken_content tidy')
    (ends rest) (ends rest') same
  have isSpace : ∀ n : Nat, ∀ c ∈ List.replicate n ' ', c = ' ' :=
    fun n c member => (List.mem_replicate.mp member).2
  obtain ⟨spaces, texts⟩ := run_append_inj (isSpace _) (isSpace _) tidy.unspaced tidy'.unspaced
    contents
  have width := congrArg List.length spaces
  rw [List.length_replicate, List.length_replicate] at width
  have depth : line.depth = line'.depth := by omega
  exact ⟨Prod.ext depth texts, (List.cons.inj ending).2⟩

/-- A line has characters, since it ends. -/
theorem chars_append_ne_nil {line : DocumentLine} {rest : List Char} : line.chars ++ rest ≠ [] := by
  simp [chars]

end DocumentLine

open DocumentLine

variable {lines lines' entries entries' : List DocumentLine}

/-- The depths and the texts of tidy lines can be told from their characters. -/
theorem outline_eq_of_chars_eq (tidy : ∀ line ∈ lines, line.IsTidy)
    (tidy' : ∀ line ∈ lines', line.IsTidy)
    (same : lines.flatMap DocumentLine.chars = lines'.flatMap DocumentLine.chars) :
    lines.map outline = lines'.map outline := by
  induction lines generalizing lines' with
  | nil =>
    cases lines' with
    | nil => rfl
    | cons line' lines' =>
      rw [List.flatMap_cons] at same
      exact absurd same.symm chars_append_ne_nil
  | cons line lines ih =>
    rw [List.flatMap_cons] at same
    cases lines' with
    | nil => exact absurd same chars_append_ne_nil
    | cons line' lines' =>
      rw [List.flatMap_cons] at same
      obtain ⟨first, rest⟩ := chars_append_inj (tidy line List.mem_cons_self)
        (tidy' line' List.mem_cons_self) same
      rw [List.map_cons, List.map_cons, first,
        ih (fun line member => tidy line (List.mem_cons_of_mem _ member))
          (fun line member => tidy' line (List.mem_cons_of_mem _ member)) rest]

/-! ## Tidy parts -/

/-- Whether fixed text holds no line end; other parts never do. -/
def LinePart.isUnbroken : LinePart → Bool
  | fixed text => text.toList.all (· != '\n')
  | _ => true

/-- Whether a part starts a text with something other than a space. -/
def LinePart.isUnspaced : LinePart → Bool
  | fixed text => text.toList.head?.any (· != ' ')
  | _ => true

/-- Whether the parts of a line make it tidy. -/
def DocumentLine.hasTidyParts (line : DocumentLine) : Bool :=
  line.parts.all LinePart.isUnbroken && line.parts.head?.all LinePart.isUnspaced

/-- No character of an unbroken part ends the line. -/
theorem LinePart.ne_lineEnd_of_mem {part : LinePart} (unbroken : part.isUnbroken = true) {c : Char}
    (member : c ∈ part.chars) : c ≠ '\n' := by
  cases part with
  | fixed text => simpa using List.all_eq_true.mp unbroken c member
  | scalar text => exact Scalar.ne_lineEnd_of_mem_scalar member
  | quoted text => exact Scalar.ne_lineEnd_of_mem_quoted member
  | flow items => exact Scalar.ne_lineEnd_of_mem_flow member

/-- The first character of an unspaced part is there, and it is no space. -/
theorem LinePart.exists_chars_eq {part : LinePart} (unspaced : part.isUnspaced = true) :
    ∃ c cs, part.chars = c :: cs ∧ c ≠ ' ' := by
  cases part with
  | fixed text =>
    cases characters : text.toList with
    | nil => simp [isUnspaced, characters] at unspaced
    | cons c cs => exact ⟨c, cs, characters, by simpa [isUnspaced, characters] using unspaced⟩
  | scalar text =>
    obtain ⟨c, cs, characters, starts⟩ := Scalar.exists_scalar_eq text
    refine ⟨c, cs, characters, ?_⟩
    rintro rfl
    exact absurd starts (by decide)
  | quoted text => exact ⟨_, _, rfl, by decide⟩
  | flow items => exact ⟨_, _, rfl, by decide⟩

/-- A line with tidy parts is tidy. -/
theorem DocumentLine.isTidy_of_hasTidyParts {line : DocumentLine}
    (parts : line.hasTidyParts = true) : line.IsTidy := by
  unfold hasTidyParts at parts
  rw [Bool.and_eq_true] at parts
  constructor
  · intro c member
    obtain ⟨part, isPart, inside⟩ := List.mem_flatMap.mp member
    exact LinePart.ne_lineEnd_of_mem (List.all_eq_true.mp parts.1 part isPart) inside
  · intro c first
    unfold text at first
    cases split : line.parts with
    | nil =>
      rw [split] at first
      cases first
    | cons part more =>
      rw [split] at first parts
      obtain ⟨d, cs, characters, other⟩ := LinePart.exists_chars_eq parts.2
      rw [List.flatMap_cons, characters] at first
      cases first
      exact other

/-! ## Lines of one shape -/

section Shapes

variable {depth : Nat} {fixed key key' value value' : String} {items items' : List String}

/-- The name at the end of a line can be told from its text. -/
theorem scalar_outline_inj
    (same : outline ⟨depth, [.fixed fixed, .scalar key]⟩ =
      outline ⟨depth, [.fixed fixed, .scalar key']⟩) : key = key' := by
  have texts := List.append_cancel_left (congrArg Prod.snd same)
  exact (Scalar.scalar_append_inj (by simp) (by simp) texts).1

/-- The quoted text at the end of a line can be told from its text. -/
theorem quoted_outline_inj
    (same : outline ⟨depth, [.fixed fixed, .quoted value]⟩ =
      outline ⟨depth, [.fixed fixed, .quoted value']⟩) : value = value' := by
  have texts := List.append_cancel_left (congrArg Prod.snd same)
  exact (Scalar.quoted_append_inj texts).1

/-- The list at the end of a line can be told from its text. -/
theorem flow_outline_inj
    (same : outline ⟨depth, [.fixed fixed, .flow items]⟩ =
      outline ⟨depth, [.fixed fixed, .flow items']⟩) : items = items' := by
  have texts := List.append_cancel_left (congrArg Prod.snd same)
  exact (Scalar.flow_append_inj texts).1

/-- The name before a colon can be told from the text of a line. -/
theorem heading_outline_inj
    (same : outline ⟨depth, [.scalar key, .fixed ":"]⟩ =
      outline ⟨depth, [.scalar key', .fixed ":"]⟩) : key = key' := by
  have colon : ∀ c ∈ [':'].head?, ¬Scalar.mayFollow c = true := by
    rintro c ⟨⟩
    decide
  exact (Scalar.scalar_append_inj colon colon (congrArg Prod.snd same)).1

/-- The name and the quoted text on both sides of a colon can be told from the text of a line. -/
theorem entry_outline_inj
    (same : outline ⟨depth, [.scalar key, .fixed ": ", .quoted value]⟩ =
      outline ⟨depth, [.scalar key', .fixed ": ", .quoted value']⟩) :
    key = key' ∧ value = value' := by
  have whole : ∀ key value, text ⟨depth, [.scalar key, .fixed ": ", .quoted value]⟩ =
      Scalar.scalar key ++ ':' :: ' ' :: Scalar.quoted value := by
    intro key value
    simp [text, LinePart.chars]
  have colon : ∀ rest : List Char, ∀ c ∈ (':' :: rest).head?, ¬Scalar.mayFollow c = true := by
    rintro rest c ⟨⟩
    decide
  have texts := congrArg Prod.snd same
  unfold outline at texts
  rw [whole, whole] at texts
  obtain ⟨keys, values⟩ := Scalar.scalar_append_inj (colon _) (colon _) texts
  have quoted := (List.cons.inj (List.cons.inj values).2).2
  rw [← List.append_nil (Scalar.quoted value), ← List.append_nil (Scalar.quoted value')] at quoted
  exact ⟨keys, (Scalar.quoted_append_inj quoted).1⟩

end Shapes

/-! ## Sections -/

section Sections

variable {depth : Nat} {rest rest' : List (Nat × List Char)}

/-- Lines that are deeper than what follows them can be told from it. -/
theorem deeper_append_inj (deeper : ∀ line ∈ lines, depth < line.depth)
    (deeper' : ∀ line ∈ lines', depth < line.depth) (ends : ∀ line ∈ rest.head?, line.1 ≤ depth)
    (ends' : ∀ line ∈ rest'.head?, line.1 ≤ depth)
    (same : lines.map outline ++ rest = lines'.map outline ++ rest') :
    lines.map outline = lines'.map outline ∧ rest = rest' := by
  have holds : ∀ lines : List DocumentLine, (∀ line ∈ lines, depth < line.depth) →
      ∀ line ∈ lines.map outline, depth < line.1 := by
    intro lines deeper line member
    obtain ⟨source, isLine, rfl⟩ := List.mem_map.mp member
    exact deeper source isLine
  exact run_append_inj (holds lines deeper) (holds lines' deeper')
    (fun line first => Nat.not_lt.mpr (ends line first))
    (fun line first => Nat.not_lt.mpr (ends' line first)) same

/-- Whether lines are one at a depth and deeper ones after it. -/
def IsEntry (depth : Nat) (lines : List DocumentLine) : Prop :=
  ∃ head body, lines = head :: body ∧ head.depth = depth ∧ ∀ line ∈ body, depth < line.depth

/-- Entries start at their depth. -/
theorem head?_entries {α : Type} {render : α → List DocumentLine}
    (isEntry : ∀ a, IsEntry depth (render a)) (items : List α) :
    ∀ line ∈ ((items.flatMap render).map outline).head?, line.1 ≤ depth := by
  intro line first
  cases items with
  | nil => cases first
  | cons item items =>
    obtain ⟨head, body, split, at_depth, -⟩ := isEntry item
    rw [List.flatMap_cons, split] at first
    cases first
    exact Nat.le_of_eq at_depth

/-- The lines of entries are deeper than whatever their depth is deeper than. -/
theorem deeper_entries {α : Type} {render : α → List DocumentLine} {above : Nat}
    (isEntry : ∀ a, IsEntry depth (render a)) (deep : above < depth) (items : List α) :
    ∀ line ∈ items.flatMap render, above < line.depth := by
  intro line member
  obtain ⟨item, -, inside⟩ := List.mem_flatMap.mp member
  obtain ⟨head, body, split, at_depth, deeper⟩ := isEntry item
  rw [split] at inside
  rcases List.mem_cons.mp inside with rfl | later
  · omega
  · have deepest := deeper line later
    omega

/-- Entries can be told from their lines when each of them can. -/
theorem entries_inj {α : Type} {render : α → List DocumentLine}
    (isEntry : ∀ a, IsEntry depth (render a))
    (inj : ∀ a b, (render a).map outline = (render b).map outline → a = b) {items items' : List α}
    (same : (items.flatMap render).map outline = (items'.flatMap render).map outline) :
    items = items' := by
  induction items generalizing items' with
  | nil =>
    cases items' with
    | nil => rfl
    | cons item' items' =>
      obtain ⟨head, body, split, -, -⟩ := isEntry item'
      rw [List.flatMap_cons, split] at same
      cases same
  | cons item items ih =>
    obtain ⟨head, body, split, at_depth, deeper⟩ := isEntry item
    cases items' with
    | nil =>
      rw [List.flatMap_cons, split] at same
      cases same
    | cons item' items' =>
      obtain ⟨head', body', split', at_depth', deeper'⟩ := isEntry item'
      have whole := same
      rw [List.flatMap_cons, List.flatMap_cons, List.map_append, List.map_append, split, split',
        List.map_cons, List.map_cons, List.cons_append, List.cons_append, List.cons.injEq] at whole
      obtain ⟨heads, tails⟩ := whole
      obtain ⟨bodies, others⟩ := deeper_append_inj deeper deeper' (head?_entries isEntry items)
        (head?_entries isEntry items') tails
      have first : item = item' := by
        refine inj item item' ?_
        rw [split, split', List.map_cons, List.map_cons, heads, bodies]
      rw [first, ih others]

/-- A section without entries or with them. -/
def sectionLines (bare heading : DocumentLine) (entries : List DocumentLine) : List DocumentLine :=
  if entries.isEmpty then [bare] else heading :: entries

/-- The entries of a section can be told from its lines and so can what follows them, when its first
line tells whether there are any. -/
theorem section_append_inj {bare heading : DocumentLine} (apart : bare.outline ≠ heading.outline)
    (deeper : ∀ line ∈ entries, depth < line.depth)
    (deeper' : ∀ line ∈ entries', depth < line.depth) (ends : ∀ line ∈ rest.head?, line.1 ≤ depth)
    (ends' : ∀ line ∈ rest'.head?, line.1 ≤ depth)
    (same : (sectionLines bare heading entries).map outline ++ rest =
      (sectionLines bare heading entries').map outline ++ rest') :
    entries.map outline = entries'.map outline ∧ rest = rest' := by
  unfold sectionLines at same
  cases entries with
  | nil =>
    cases entries' with
    | nil => exact ⟨rfl, (List.cons.inj same).2⟩
    | cons entry' entries' => exact absurd (List.cons.inj same).1 apart
  | cons entry entries =>
    cases entries' with
    | nil => exact absurd (List.cons.inj same).1.symm apart
    | cons entry' entries' =>
      exact deeper_append_inj deeper deeper' ends ends' (List.cons.inj same).2

end Sections

end Pipewright
