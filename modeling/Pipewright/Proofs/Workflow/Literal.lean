import Pipewright.Proofs.Json.Recovery
import Pipewright.Proofs.Workflow.Scalar

/-!
# Quoted scalars are JSON literals

What stands between quotes in a document is a literal of a string in JSON: nothing below a space is
in it as it is, quotes and backslashes are in it only in escapes, and an escape of a character by its
number has four hexadecimal digits (`Json.IsLiteral`). Every character is written as a glyph that a
reader of JSON takes back to it, so a quoted text is read as the text that was quoted, and where the
literal ends can be told whatever follows it (`Scalar.quoted_reads_back`).
-/
namespace Pipewright

/-! ## Literals -/

namespace Json

/-- The letters of the escapes of two characters. -/
def escapeLetters : List Char := ['"', '\\', '/', 'b', 'f', 'n', 'r', 't']

/-- Whether a character is a hexadecimal digit. -/
def isHexDigit (c : Char) : Bool :=
  ('0' ≤ c && c ≤ '9') || ('a' ≤ c && c ≤ 'f') || ('A' ≤ c && c ≤ 'F')

/-- Whether characters go on inside a literal to the quote that closes it, and end there. -/
inductive ClosesLiteral : List Char → Prop where
  /-- The closing quote. -/
  | quote : ClosesLiteral ['"']
  /-- A character that stands for itself. -/
  | plain {c : Char} {rest : List Char} (high : 0x20 ≤ c.toNat) (quote : c ≠ '"')
      (backslash : c ≠ '\\') (later : ClosesLiteral rest) : ClosesLiteral (c :: rest)
  /-- An escape of two characters. -/
  | short {letter : Char} {rest : List Char} (known : letter ∈ escapeLetters)
      (later : ClosesLiteral rest) : ClosesLiteral ('\\' :: letter :: rest)
  /-- An escape by four hexadecimal digits. -/
  | unit {a b c d : Char} {rest : List Char}
      (digits : ∀ digit ∈ [a, b, c, d], isHexDigit digit = true) (later : ClosesLiteral rest) :
      ClosesLiteral ('\\' :: 'u' :: a :: b :: c :: d :: rest)

/-- Whether characters are one literal of a string. -/
def IsLiteral (text : List Char) : Prop := ∃ inside, text = '"' :: inside ∧ ClosesLiteral inside

/-- A character that has the value of a hexadecimal digit is one. -/
theorem isHexDigit_of_hexValue? {c : Char} {n : Nat} (value : hexValue? (.char c) = some n) :
    isHexDigit c = true := by
  unfold isHexDigit
  unfold hexValue? at value
  dsimp only at value
  by_cases decimal : ('0' ≤ c && c ≤ '9') = true
  · rw [decimal]
    rfl
  by_cases small : ('a' ≤ c && c ≤ 'f') = true
  · rw [small, Bool.or_true]
    rfl
  by_cases capital : ('A' ≤ c && c ≤ 'F') = true
  · rw [capital, Bool.or_true]
  · rw [if_neg decimal, if_neg small, if_neg capital] at value
    cases value

/-- A letter that escapes a character is one of those that do. -/
theorem mem_escapeLetters_of_shortEscape? {letter c : Char}
    (escapes : shortEscape? (.char letter) = some c) : letter ∈ escapeLetters := by
  by_contra unknown
  simp only [escapeLetters, List.mem_cons, not_or] at unknown
  simp [shortEscape?, unknown] at escapes

/-- An escaped unit goes on inside a literal. -/
theorem HexUnit.closesLiteral (u : HexUnit) {rest : List Char} (later : ClosesLiteral rest) :
    ClosesLiteral (u.chars ++ rest) := by
  have reads := u.reads
  simp only [hexUnit?, Option.bind_eq_bind, Option.bind_eq_some_iff] at reads
  obtain ⟨_, first, _, second, _, third, _, fourth, -⟩ := reads
  refine .unit (fun digit among => ?_) later
  simp only [List.mem_cons, List.not_mem_nil, or_false] at among
  rcases among with rfl | rfl | rfl | rfl
  · exact isHexDigit_of_hexValue? first
  · exact isHexDigit_of_hexValue? second
  · exact isHexDigit_of_hexValue? third
  · exact isHexDigit_of_hexValue? fourth

/-- A glyph goes on inside a literal. -/
theorem Glyph.closesLiteral (g : Glyph) {rest : List Char} (later : ClosesLiteral rest) :
    ClosesLiteral (g.chars ++ rest) := by
  cases g with
  | plain c unescaped =>
    simp only [standsForItself, isRawControl, Bool.and_eq_true, bne_iff_ne, Bool.not_eq_true',
      decide_eq_false_iff_not, Nat.not_lt] at unescaped
    obtain ⟨⟨quote, backslash⟩, high⟩ := unescaped
    exact .plain high quote backslash later
  | short letter c escapes => exact .short (mem_escapeLetters_of_shortEscape? escapes) later
  | unit u whole => exact u.closesLiteral later
  | pair leading trailing leads trails =>
    show ClosesLiteral ((leading.chars ++ trailing.chars) ++ rest)
    rw [List.append_assoc]
    exact leading.closesLiteral (trailing.closesLiteral later)

/-- Glyphs between quotes are a literal. -/
theorem isLiteral_closedChars (glyphs : List Glyph) : IsLiteral ('"' :: closedChars glyphs) := by
  refine ⟨closedChars glyphs, rfl, ?_⟩
  induction glyphs with
  | nil => exact .quote
  | cons g glyphs ih =>
    rw [closedChars_cons]
    exact g.closesLiteral ih

/-- A hexadecimal digit is not below a space. -/
theorem le_toNat_of_isHexDigit {c : Char} (digit : isHexDigit c = true) : 0x20 ≤ c.toNat := by
  have value : c.toNat = c.val.toNat := rfl
  simp only [isHexDigit, Bool.or_eq_true, Bool.and_eq_true, decide_eq_true_eq, Char.le_def,
    UInt32.le_iff_toNat_le] at digit
  simp at digit
  omega

/-- No character of a literal is below a space. -/
theorem IsLiteral.le_toNat {text : List Char} (literal : IsLiteral text) :
    ∀ c ∈ text, 0x20 ≤ c.toNat := by
  obtain ⟨inside, rfl, closes⟩ := literal
  rw [List.forall_mem_cons]
  refine ⟨by decide, ?_⟩
  induction closes with
  | quote => exact List.forall_mem_singleton.mpr (by decide)
  | plain high _ _ _ ih => exact List.forall_mem_cons.mpr ⟨high, ih⟩
  | short known _ ih =>
    have letters : ∀ letter ∈ escapeLetters, 0x20 ≤ letter.toNat := by simp [escapeLetters]
    exact List.forall_mem_cons.mpr ⟨by decide, List.forall_mem_cons.mpr ⟨letters _ known, ih⟩⟩
  | unit digits _ ih =>
    simp only [List.forall_mem_cons] at digits ⊢
    obtain ⟨first, second, third, fourth, -⟩ := digits
    exact ⟨by decide, by decide, le_toNat_of_isHexDigit first, le_toNat_of_isHexDigit second,
      le_toNat_of_isHexDigit third, le_toNat_of_isHexDigit fourth, ih⟩

end Json

/-! ## Quoted texts -/

namespace Scalar

open Json (Glyph closedChars glyphText IsLiteral)

/-- Two hexadecimal digits after two zeros are those of a control character. -/
theorem unitEscape_of_isControl {c : Char} (control : isControl c = true) :
    Json.unitEscape c.toNat =
      ['\\', 'u', '0', '0', hexDigit (c.toNat / 16), hexDigit (c.toNat % 16)] := by
  have small := toNat_lt_of_isControl control
  have highest : c.toNat / 4096 % 16 = 0 := by omega
  have higher : c.toNat / 256 % 16 = 0 := by omega
  have high : c.toNat / 16 % 16 = c.toNat / 16 := by omega
  rw [Json.unitEscape, highest, higher, high]
  rfl

/-- A character is escaped as a glyph of it. -/
theorem exists_glyph_escape (c : Char) :
    ∃ glyph : Glyph, glyph.chars = escape c ∧ glyph.char = c := by
  have short (letter c : Char) (escapes : Json.shortEscape? (.char letter) = some c)
      (written : escape c = ['\\', letter]) :
      ∃ glyph : Glyph, glyph.chars = escape c ∧ glyph.char = c :=
    ⟨.short letter c escapes, written.symm, rfl⟩
  by_cases quote : c = '"'
  · exact quote ▸ short '"' '"' rfl rfl
  by_cases slash : c = '\\'
  · exact slash ▸ short '\\' '\\' rfl rfl
  by_cases lineEnd : c = '\n'
  · exact lineEnd ▸ short 'n' '\n' rfl rfl
  by_cases carriageReturn : c = '\r'
  · exact carriageReturn ▸ short 'r' '\r' rfl rfl
  by_cases tab : c = '\t'
  · exact tab ▸ short 't' '\t' rfl rfl
  unfold escape
  rw [if_neg quote, if_neg slash, if_neg lineEnd, if_neg carriageReturn, if_neg tab]
  by_cases control : isControl c = true
  · have small := toNat_lt_of_isControl control
    have whole : Json.isTrailing c.toNat = false ∧ Json.isLeading c.toNat = false := by
      simp only [Json.isTrailing, Json.isLeading, Bool.and_eq_false_iff, decide_eq_false_iff_not]
      omega
    rw [if_pos control, ← unitEscape_of_isControl control]
    exact ⟨.unit ⟨_, _, _, _, c.toNat, Json.hexUnit?_hexDigit (by omega)⟩ whole, rfl,
      Char.ofNat_toNat c⟩
  · have raw : Json.isRawControl (.char c) = false := by
      simp only [isControl, Bool.or_eq_true, Bool.and_eq_true, decide_eq_true_eq] at control
      simp only [Json.isRawControl, decide_eq_false_iff_not]
      omega
    have unescaped : Json.standsForItself c = true := by
      simp [Json.standsForItself, raw, quote, slash]
    rw [if_neg control]
    exact ⟨.plain c unescaped, rfl, rfl⟩

/-- A text is quoted as glyphs of it. -/
theorem exists_glyphs_quoted (text : String) :
    ∃ glyphs : List Glyph, '"' :: closedChars glyphs = quoted text ∧ glyphText glyphs = text := by
  obtain ⟨glyphs, written, spelled⟩ := Json.exists_glyphs_flatMap exists_glyph_escape text.toList
  refine ⟨glyphs, congrArg ('"' :: ·) written, ?_⟩
  rw [glyphText, spelled, String.ofList_toList]

/-- What is quoted is spelled by the literal. -/
theorem spells_quoted (text : String) : Json.Spells (quoted text) (.text text) := by
  obtain ⟨glyphs, written, spelled⟩ := exists_glyphs_quoted text
  exact ⟨.quoted glyphs, written, congrArg Json.text spelled⟩

/-- A quoted text is one literal. -/
theorem isLiteral_quoted (text : String) : IsLiteral (quoted text) := by
  obtain ⟨glyphs, written, -⟩ := exists_glyphs_quoted text
  rw [← written]
  exact Json.isLiteral_closedChars glyphs

/-- A quoted text is parsed as the text. -/
theorem parse_quoted (text : String) :
    Json.parse (String.ofList (quoted text)) = .ok (.text text) := by
  obtain ⟨s, written, value⟩ := spells_quoted text
  rw [Json.parse_eq_ok_iff_spelling]
  refine ⟨s, congrArg String.ofList written, ?_, ?_⟩
  · rw [value]
    exact Nat.zero_le _
  · rw [value]
    rfl

/-- Whether characters are a literal of a string and stand for a text. -/
structure IsLiteralOf (cs : List Char) (text : String) : Prop where
  /-- They are one literal. -/
  literal : IsLiteral cs
  /-- None of them is below a space. -/
  le_toNat : ∀ c ∈ cs, 0x20 ≤ c.toNat
  /-- As a value they are the text. -/
  parsed : Json.parse (String.ofList cs) = .ok (.text text)
  /-- As a text they are the text. -/
  read : Json.Reading.text.ofText (String.ofList cs) = .ok text

/-- A text is quoted as a literal of it, so different texts are quoted differently, and the text and
whatever follows the literal can be told from what is written. -/
theorem quoted_reads_back :
    (∀ text, IsLiteralOf (quoted text) text) ∧ Function.Injective quoted ∧
      ∀ text other rest rest', quoted text ++ rest = quoted other ++ rest' ↔
        text = other ∧ rest = rest' := by
  have tells (text other : String) (rest rest' : List Char) :
      quoted text ++ rest = quoted other ++ rest' ↔ text = other ∧ rest = rest' := by
    refine ⟨quoted_append_inj, ?_⟩
    rintro ⟨rfl, rfl⟩
    rfl
  refine ⟨fun text => ?_, fun text other same => ?_, tells⟩
  · have literal := isLiteral_quoted text
    exact ⟨literal, literal.le_toNat, parse_quoted text,
      (Json.conveys_text text).ofText_of_spells (spells_quoted text)⟩
  · exact ((tells text other [] []).mp (congrArg (· ++ []) same)).1

end Scalar

end Pipewright
