import Pipewright.Proofs.Json.Grammar

/-!
# What is written can be read

The texts of a value, on one line and over lines, are spellings of that value (`IsSpelled`) when its
parts are spelled: texts always are, and so is a natural number below the bound of a word
(`isSpelled_nat`). A value without numbers reads back from its line as the value settled, as long
as it does not nest too deep (`parse_toText_eq_ok_iff`).
-/
namespace Pipewright.Json

/-! ## Texts -/

/-- A digit that is written is read. -/
theorem hexValue?_hexDigit : ∀ n < 16, hexValue? (.char (hexDigit n)) = some n := by decide

/-- The digits of a unit are those of the unit. -/
theorem hexUnit?_hexDigit {code : Nat} (small : code < 65536) :
    hexUnit? (.char (hexDigit (code / 4096 % 16))) (.char (hexDigit (code / 256 % 16)))
      (.char (hexDigit (code / 16 % 16))) (.char (hexDigit (code % 16))) = some code := by
  have digit (n : Nat) : hexValue? (.char (hexDigit (n % 16))) = some (n % 16) :=
    hexValue?_hexDigit _ (Nat.mod_lt _ (by decide))
  simp only [hexUnit?, digit, Option.bind_eq_bind, Option.bind_some, Option.some.injEq]
  omega

/-- A character is written as one that is spelled. -/
theorem exists_glyph (c : Char) : ∃ glyph : Glyph, glyph.chars = quoteChar c ∧ glyph.char = c := by
  have short (letter c : Char) (escapes : shortEscape? (.char letter) = some c)
      (written : quoteChar c = ['\\', letter]) :
      ∃ glyph : Glyph, glyph.chars = quoteChar c ∧ glyph.char = c :=
    ⟨.short letter c escapes, written.symm, rfl⟩
  by_cases quote : c = '"'
  · exact quote ▸ short '"' '"' rfl rfl
  by_cases backslash : c = '\\'
  · exact backslash ▸ short '\\' '\\' rfl rfl
  by_cases control : c.toNat < 0x20
  · by_cases common : c ∈ ['\x08', '\x0c', '\n', '\r', '\t']
    · simp only [List.mem_cons, List.not_mem_nil, or_false] at common
      obtain rfl | rfl | rfl | rfl | rfl := common
      · exact short 'b' '\x08' rfl rfl
      · exact short 'f' '\x0c' rfl rfl
      · exact short 'n' '\n' rfl rfl
      · exact short 'r' '\r' rfl rfl
      · exact short 't' '\t' rfl rfl
    · have written : quoteChar c = unitEscape c.toNat := by
        simp only [List.mem_cons, List.not_mem_nil, or_false, not_or] at common
        simp [quoteChar, quote, backslash, control, common]
      have whole : isTrailing c.toNat = false ∧ isLeading c.toNat = false := by
        simp only [isTrailing, isLeading, Bool.and_eq_false_iff, decide_eq_false_iff_not]
        omega
      exact ⟨.unit ⟨_, _, _, _, c.toNat, hexUnit?_hexDigit (by omega)⟩ whole, written.symm,
        Char.ofNat_toNat c⟩
  · have unescaped : standsForItself c = true := by
      simp [standsForItself, isRawControl, quote, backslash, control]
    have written : quoteChar c = [c] := by
      have common : c ∉ ['\x08', '\x0c', '\n', '\r', '\t'] := by
        intro common
        simp only [List.mem_cons, List.not_mem_nil, or_false] at common
        obtain rfl | rfl | rfl | rfl | rfl := common <;> exact control (by decide)
      simp only [List.mem_cons, List.not_mem_nil, or_false, not_or] at common
      simp [quoteChar, quote, backslash, control, common]
    exact ⟨.plain c unescaped, written.symm, rfl⟩

/-- A text whose characters are each written as glyphs of them is written as glyphs of it. -/
theorem exists_glyphs_flatMap {write : Char → List Char}
    (each : ∀ c, ∃ glyph : Glyph, glyph.chars = write c ∧ glyph.char = c) (cs : List Char) :
    ∃ glyphs : List Glyph, closedChars glyphs = cs.flatMap write ++ ['"'] ∧
      glyphs.map Glyph.char = cs := by
  induction cs with
  | nil => exact ⟨[], rfl, rfl⟩
  | cons c cs ih =>
    obtain ⟨glyph, written, spelled⟩ := each c
    obtain ⟨glyphs, writtens, spelleds⟩ := ih
    refine ⟨glyph :: glyphs, ?_, by simp [spelled, spelleds]⟩
    rw [closedChars_cons, written, writtens, List.flatMap_cons, List.append_assoc]

/-- A text is written as one that is spelled. -/
theorem exists_quote (text : String) :
    ∃ glyphs : List Glyph, '"' :: closedChars glyphs = quote text.toList ∧
      glyphText glyphs = text := by
  obtain ⟨glyphs, written, spelled⟩ := exists_glyphs_flatMap exists_glyph text.toList
  refine ⟨glyphs, congrArg ('"' :: ·) written, ?_⟩
  rw [glyphText, spelled, String.ofList_toList]

/-- A name is written as one that is spelled. -/
theorem exists_spelledName (name : String) :
    ∃ n : SpelledName, n.chars = quote name.toList ++ [':'] ∧ n.name = name := by
  obtain ⟨glyphs, quoted, named⟩ := exists_quote name
  exact ⟨⟨.none, glyphs, .none⟩, congrArg (· ++ [':']) quoted, named⟩

/-! ## Numbers -/

/-- Taking digits never makes an integer less. -/
theorem le_ofDigitChars (digits : List Char) (n : Nat) : n ≤ Nat.ofDigitChars 10 digits n := by
  induction digits generalizing n with
  | nil => exact Nat.le_refl n
  | cons d digits ih =>
    rw [Nat.ofDigitChars_cons]
    have later := ih (10 * n + (d.toNat - '0'.toNat))
    omega

/-- Digits that stay below the bound are all taken. -/
theorem takeFitting_eq (digits : List Char) (n : Nat)
    (fits : Nat.ofDigitChars 10 digits n < wordBound) :
    takeFitting n digits = (Nat.ofDigitChars 10 digits n, []) := by
  induction digits generalizing n with
  | nil => rfl
  | cons d digits ih =>
    rw [Nat.ofDigitChars_cons, Nat.mul_comm] at fits ⊢
    have below := Nat.lt_of_le_of_lt (le_ofDigitChars digits _) fits
    rw [takeFitting]
    exact (if_pos below).trans (ih _ fits)

/-- A number that is not zero does not start with a zero. -/
theorem head_toDigits_ne_zero {n : Nat} (positive : 0 < n) :
    (Nat.toDigits 10 n).head? ≠ some '0' := by
  induction n using Nat.strong_induction_on with
  | h n ih =>
    by_cases small : n < 10
    · rw [Nat.toDigits_of_lt_base small]
      simp only [List.head?_cons, ne_eq, Option.some.injEq, Nat.digitChar_eq_zero]
      omega
    · have front := ih (n / 10) (by omega) (by omega)
      rw [Nat.toDigits_of_base_le (by decide) (by omega)]
      cases digits : Nat.toDigits 10 (n / 10) with
      | nil => exact absurd digits Nat.toDigits_ne_nil
      | cons d more => rwa [digits] at front

/-- There is no zero before other digits of a number. -/
theorem toDigits_unpadded (n : Nat) (rest : List Char)
    (padded : Nat.toDigits 10 n = '0' :: rest) : rest = [] := by
  obtain rfl | positive := Nat.eq_zero_or_pos n
  · exact (List.cons.inj padded).2.symm
  · exact absurd (by rw [padded]; rfl) (head_toDigits_ne_zero positive)

/-- The digits of a natural number below the bound of a word, as they are spelled. -/
def spelledNatural (n : Nat) (fits : n < wordBound) : SpelledNumber where
  minus := false
  whole := ⟨Nat.toDigits 10 n, fun _ => Nat.isDigit_of_mem_toDigits (by decide) (by decide),
    Nat.toDigits_ne_nil⟩
  unpadded := toDigits_unpadded n
  fraction := none
  exponent := none
  number := .natural n
  counts := by
    have taken : takeFitting 0 (Nat.toDigits 10 n) = (n, []) := by
      have whole := takeFitting_eq (Nat.toDigits 10 n) 0
      rw [Nat.ofDigitChars_ten_toDigits] at whole
      exact whole fits
    simp [SpelledNumeral.numeral, Numeral.value, taken]

/-! ## Values -/

/-- Whether characters spell a value. -/
def Spells (text : List Char) (value : Json) : Prop :=
  ∃ s : Spelling, s.chars = text ∧ s.value = value

/-- Whether both texts of a value spell it. -/
structure IsSpelled (value : Json) : Prop where
  /-- Its text on one line does. -/
  onOneLine : Spells (compact value) value
  /-- Its text over lines does, at any level. -/
  overLines : ∀ level, Spells (spread level value) value

/-- Null is spelled. -/
theorem isSpelled_null : IsSpelled null := ⟨⟨.null, rfl, rfl⟩, fun _ => ⟨.null, rfl, rfl⟩⟩

/-- A truth value is spelled. -/
theorem isSpelled_bool (b : Bool) : IsSpelled (bool b) :=
  ⟨⟨.bool b, rfl, rfl⟩, fun _ => ⟨.bool b, rfl, rfl⟩⟩

/-- A natural number below the bound of a word is spelled. -/
theorem isSpelled_nat {n : Nat} (fits : n < wordBound) : IsSpelled (nat n) := by
  have written : (Spelling.number (spelledNatural n fits)).chars = Nat.toDigits 10 n := by
    simp [Spelling.chars, SpelledNumeral.chars, SpelledNumeral.unsigned, SpelledNumeral.tail,
      SpelledNumeral.exponentChars, spelledNatural]
  exact ⟨⟨_, written, rfl⟩, fun _ => ⟨_, written, rfl⟩⟩

/-- A text is spelled. -/
theorem isSpelled_text (t : String) : IsSpelled (text t) := by
  obtain ⟨glyphs, written, spelled⟩ := exists_quote t
  have spells : Spells (quote t.toList) (text t) := ⟨.quoted glyphs, written, congrArg text spelled⟩
  exact ⟨spells, fun _ => spells⟩

/-- A line end and its indentation are a gap. -/
def freshGap (level : Nat) : Gap where
  chars := freshLine level
  areSpaces := by
    intro c member
    obtain rfl | indent := List.mem_cons.mp member
    · rfl
    · exact List.eq_of_mem_replicate indent ▸ rfl

/-- What spells a value still does with a line end after it. -/
theorem Spells.append_lineEnd {text : List Char} {value : Json} (spells : Spells text value) :
    Spells (text ++ ['\n']) value := by
  obtain ⟨s, rfl, rfl⟩ := spells
  exact ⟨.spaced .none s (freshGap 0), rfl, rfl⟩

/-- One space is a gap. -/
def oneSpace : Gap := ⟨[' '], fun _ member => List.mem_singleton.mp member ▸ rfl⟩

section Lists

variable (lay : Json → List Char) (written : List Json → List Char)

/-- Items that are laid out one after another with commas between them are spelled, up to a gap
after the last, if each of them is. -/
theorem exists_spellings_items (last : ∀ item, written [item] = lay item)
    (more : ∀ item next items,
      written (item :: next :: items) = lay item ++ ',' :: written (next :: items))
    (after : Gap) : (items : List Json) → items ≠ [] → (∀ item ∈ items, Spells (lay item) item) →
      ∃ spellings : List Spelling, Spelling.itemsChars spellings = written items ++ after.chars ∧
        Spelling.itemsValue spellings = items
  | [], nonempty, _ => absurd rfl nonempty
  | [item], _, each => by
    obtain ⟨s, laid, spelled⟩ := each item List.mem_cons_self
    refine ⟨[.spaced .none s after], ?_, congrArg ([·]) spelled⟩
    rw [last, ← laid]
    rfl
  | item :: next :: items, _, each => by
    obtain ⟨s, laid, spelled⟩ := each item List.mem_cons_self
    obtain ⟨spellings, laidLater, spelledLater⟩ :=
      exists_spellings_items last more after (next :: items) (List.cons_ne_nil _ _)
        fun other among => each other (List.mem_cons_of_mem _ among)
    cases spellings with
    | nil => cases spelledLater
    | cons second spellings =>
      refine ⟨s :: second :: spellings, ?_, ?_⟩
      · rw [more, List.append_assoc, List.cons_append, ← laidLater, ← laid]
        rfl
      · rw [Spelling.itemsValue, spelled, spelledLater]

end Lists

/-- A list is spelled if its items are. -/
theorem isSpelled_list {items : List Json} (each : ∀ item ∈ items, IsSpelled item) :
    IsSpelled (list items) := by
  cases items with
  | nil =>
    have spells : Spells ['[', ']'] (list []) := ⟨.list .none [], rfl, rfl⟩
    exact ⟨spells, fun _ => spells⟩
  | cons first items =>
    constructor
    · obtain ⟨spellings, written, spelled⟩ := exists_spellings_items compact compactItems
        (fun _ => rfl) (fun _ _ _ => rfl) .none (first :: items) (List.cons_ne_nil _ _)
        fun item among => (each item among).onOneLine
      refine ⟨.list .none spellings, ?_, congrArg list spelled⟩
      rw [Spelling.chars, written, compact]
      simp [Gap.none]
    · intro level
      have laid : ∀ item ∈ first :: items,
          Spells (freshLine (level + 1) ++ spread (level + 1) item) item := by
        intro item among
        obtain ⟨s, written, spelled⟩ := (each item among).overLines (level + 1)
        refine ⟨.spaced (freshGap (level + 1)) s .none, ?_, spelled⟩
        rw [← written]
        simp [Spelling.chars, freshGap, Gap.none]
      obtain ⟨spellings, written, spelled⟩ := exists_spellings_items _ (spreadItems (level + 1))
        (fun _ => rfl) (fun _ _ _ => rfl) (freshGap level) (first :: items)
        (List.cons_ne_nil _ _) laid
      refine ⟨.list .none spellings, ?_, congrArg list spelled⟩
      rw [Spelling.chars, written, spread]
      simp [Gap.none, freshGap]

/-- Whether characters spell a member with its name. -/
def SpellsMember (text : List Char) (member : String × Json) : Prop :=
  ∃ (n : SpelledName) (s : Spelling), n.chars ++ s.chars = text ∧
    n.name = member.1 ∧ s.value = member.2

section Objects

variable (lay : String × Json → List Char) (written : List (String × Json) → List Char)

/-- Members that are laid out one after another with commas between them are spelled, up to a gap
after the last, if each of them is. -/
theorem exists_spellings_members (last : ∀ member, written [member] = lay member)
    (more : ∀ member next members,
      written (member :: next :: members) = lay member ++ ',' :: written (next :: members))
    (after : Gap) : (members : List (String × Json)) → members ≠ [] →
      (∀ member ∈ members, SpellsMember (lay member) member) →
      ∃ spellings : List (SpelledName × Spelling),
        Spelling.membersChars spellings = written members ++ after.chars ∧
          Spelling.membersValue spellings = members
  | [], nonempty, _ => absurd rfl nonempty
  | [member], _, each => by
    obtain ⟨n, s, laid, named, spelled⟩ := each member List.mem_cons_self
    refine ⟨[(n, .spaced .none s after)], ?_, ?_⟩
    · rw [last, ← laid, List.append_assoc]
      rfl
    · show [(n.name, s.value)] = [member]
      rw [named, spelled]
  | member :: next :: members, _, each => by
    obtain ⟨n, s, laid, named, spelled⟩ := each member List.mem_cons_self
    obtain ⟨spellings, laidLater, spelledLater⟩ :=
      exists_spellings_members last more after (next :: members) (List.cons_ne_nil _ _)
        fun other among => each other (List.mem_cons_of_mem _ among)
    cases spellings with
    | nil => cases spelledLater
    | cons second spellings =>
      refine ⟨(n, s) :: second :: spellings, ?_, ?_⟩
      · rw [more, List.append_assoc, List.cons_append, ← laidLater, ← laid, List.append_assoc]
        rfl
      · rw [Spelling.membersValue, named, spelled, spelledLater]

end Objects

/-- An object is spelled if the values of its members are. -/
theorem isSpelled_object {members : List (String × Json)}
    (each : ∀ member ∈ members, IsSpelled member.2) : IsSpelled (object members) := by
  cases members with
  | nil =>
    have spells : Spells ['\x7b', '\x7d'] (object []) := ⟨.object .none [], rfl, rfl⟩
    exact ⟨spells, fun _ => spells⟩
  | cons first members =>
    constructor
    · have laid : ∀ member ∈ first :: members,
          SpellsMember (quote member.1.toList ++ ':' :: compact member.2) member := by
        intro member among
        obtain ⟨n, quoted, named⟩ := exists_spelledName member.1
        obtain ⟨s, written, spelled⟩ := (each member among).onOneLine
        exact ⟨n, s, by simp [quoted, written], named, spelled⟩
      obtain ⟨spellings, written, spelled⟩ := exists_spellings_members _ compactMembers
        (fun _ => rfl) (fun _ _ _ => by simp [compactMembers]) .none (first :: members)
        (List.cons_ne_nil _ _) laid
      refine ⟨.object .none spellings, ?_, congrArg object spelled⟩
      rw [Spelling.chars, written, compact]
      simp [Gap.none]
    · intro level
      have laid : ∀ member ∈ first :: members,
          SpellsMember (freshLine (level + 1) ++ quote member.1.toList ++
            ':' :: ' ' :: spread (level + 1) member.2) member := by
        intro member among
        obtain ⟨glyphs, quoted, named⟩ := exists_quote member.1
        obtain ⟨s, written, spelled⟩ := (each member among).overLines (level + 1)
        refine ⟨⟨freshGap (level + 1), glyphs, .none⟩, .spaced oneSpace s .none, ?_, named, spelled⟩
        rw [← quoted, ← written]
        simp [SpelledName.chars, SpelledName.tail, Spelling.chars, freshGap, oneSpace, Gap.none]
      obtain ⟨spellings, written, spelled⟩ := exists_spellings_members _
        (spreadMembers (level + 1)) (fun _ => rfl) (fun _ _ _ => by simp [spreadMembers])
        (freshGap level) (first :: members) (List.cons_ne_nil _ _) laid
      refine ⟨.object .none spellings, ?_, congrArg object spelled⟩
      rw [Spelling.chars, written, spread]
      simp [Gap.none, freshGap]

/-! ## Values without numbers -/

mutual

/-- Whether there is no number in a value. -/
def IsNumberless : Json → Prop
  | null => True
  | bool _ => True
  | number _ => False
  | text _ => True
  | list items => AreNumberless items
  | object members => HaveNoNumber members

/-- Whether there is no number in any item. -/
def AreNumberless : List Json → Prop
  | [] => True
  | item :: items => IsNumberless item ∧ AreNumberless items

/-- Whether there is no number in any member. -/
def HaveNoNumber : List (String × Json) → Prop
  | [] => True
  | (_, value) :: members => IsNumberless value ∧ HaveNoNumber members

end

/-- There is no number in items that are written each without one. -/
theorem areNumberless_map {α : Type} (write : α → Json)
    (numberless : ∀ item, IsNumberless (write item)) (items : List α) :
    AreNumberless (items.map write) := by
  induction items with
  | nil => trivial
  | cons item items ih => exact ⟨numberless item, ih⟩

/-- There is no number in some members and others when there is none in either. -/
theorem haveNoNumber_append (members later : List (String × Json)) :
    HaveNoNumber (members ++ later) ↔ HaveNoNumber members ∧ HaveNoNumber later := by
  induction members with
  | nil => simp [HaveNoNumber]
  | cons member members ih => simp [HaveNoNumber, ih, and_assoc]

mutual

/-- A value without numbers is spelled. -/
theorem isSpelled_of_isNumberless : (value : Json) → IsNumberless value → IsSpelled value
  | null, _ => isSpelled_null
  | bool b, _ => isSpelled_bool b
  | text t, _ => isSpelled_text t
  | list items, numberless => isSpelled_list (isSpelled_of_areNumberless items numberless)
  | object members, numberless =>
    isSpelled_object (isSpelled_of_haveNoNumber members numberless)

/-- Items without numbers are spelled. -/
theorem isSpelled_of_areNumberless :
    (items : List Json) → AreNumberless items → ∀ item ∈ items, IsSpelled item
  | [], _ => List.forall_mem_nil _
  | item :: items, ⟨first, later⟩ => List.forall_mem_cons.mpr
    ⟨isSpelled_of_isNumberless item first, isSpelled_of_areNumberless items later⟩

/-- The values of members without numbers are spelled. -/
theorem isSpelled_of_haveNoNumber :
    (members : List (String × Json)) → HaveNoNumber members → ∀ member ∈ members,
      IsSpelled member.2
  | [], _ => List.forall_mem_nil _
  | (_, value) :: members, ⟨first, later⟩ => List.forall_mem_cons.mpr
    ⟨isSpelled_of_isNumberless value first, isSpelled_of_haveNoNumber members later⟩

end

/-- A value without numbers on one line is spelled. -/
theorem exists_spelling_compact (value : Json) (numberless : IsNumberless value) :
    ∃ s : Spelling, s.chars = compact value ∧ s.value = value :=
  (isSpelled_of_isNumberless value numberless).onOneLine

/-- What is written reads back, its names settled, as long as it does not nest too deep. -/
theorem parse_toText_eq_ok_iff {value result : Json} (numberless : IsNumberless value) :
    parse value.toText = .ok result ↔
      value.nesting ≤ Outline.maxDepth ∧ result = value.settled := by
  obtain ⟨s, written, spelled⟩ := exists_spelling_compact value numberless
  have text : s.toText = value.toText := congrArg String.ofList written
  rw [← text, s.parse_eq_ok_iff, spelled]

end Pipewright.Json
