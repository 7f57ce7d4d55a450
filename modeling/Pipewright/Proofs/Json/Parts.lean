import Mathlib.Data.List.TakeWhile
import Pipewright.Proofs.Json.Spelling

/-!
# Reading the parts of a text

Gaps, quoted texts, words and numbers are each read up to where they end, whatever follows them; a
number ends only where nothing goes on with it (`EndsNumber`). Offsets are of no account to what is
read.
-/
namespace Pipewright.Json

/-! ## Gaps -/

/-- The letters from the first one on that is not a space. -/
def dropSpaces (rest : List Letter) : List Letter := rest.dropWhile Cursor.isSpace

/-- Skipping spaces goes on at the first letter that is none. -/
theorem skipSpace_rest (c : Cursor) : c.skipSpace.rest = dropSpaces c.rest := by
  have split := List.takeWhile_append_dropWhile (p := Cursor.isSpace) (l := c.rest)
  show c.rest.drop (c.rest.takeWhile Cursor.isSpace).length = _
  exact (congrArg _ split.symm).trans List.drop_left

/-- Spaces that have been skipped are gone. -/
theorem skipSpace_skipSpace (c : Cursor) : c.skipSpace.skipSpace = c.skipSpace := by
  have none_left : c.skipSpace.rest.takeWhile Cursor.isSpace = [] := by
    rw [skipSpace_rest, dropSpaces, List.takeWhile_eq_nil_iff]
    exact fun some_left => List.dropWhile_get_zero_not _ _ some_left
  generalize c.skipSpace = skipped at none_left
  simp [Cursor.skipSpace, none_left]

/-- Where no space stands nothing is skipped. -/
theorem skipSpace_of_not_isSpace {offset : Nat} {l : Letter} {rest : List Letter}
    (solid : Cursor.isSpace l = false) :
    Cursor.skipSpace ⟨offset, l :: rest⟩ = ⟨offset, l :: rest⟩ := by
  simp [Cursor.skipSpace, solid]

/-- A gap is skipped. -/
theorem dropSpaces_gap (gap : Gap) (rest : List Letter) :
    dropSpaces (gap.chars.map Letter.char ++ rest) = dropSpaces rest :=
  List.dropWhile_append_of_pos (by simpa using gap.areSpaces)

/-- A letter that is no space is not skipped. -/
theorem dropSpaces_cons {l : Letter} {rest : List Letter} (solid : Cursor.isSpace l = false) :
    dropSpaces (l :: rest) = l :: rest :=
  List.dropWhile_cons_of_neg (by simp [solid])

/-! ## Quoted texts -/

/-- An escaped unit is read. -/
theorem quotedPieces_unit (u : HexUnit) (offset : Nat) (rest : List Letter) :
    quotedPieces offset (u.chars.map Letter.char ++ rest) =
      (.unit u.code :: (quotedPieces (offset + 6) rest).1, (quotedPieces (offset + 6) rest).2) := by
  have reads := u.reads
  simp [HexUnit.chars, quotedPieces, reads]

/-- A glyph is read as its pieces. -/
theorem quotedPieces_glyph (g : Glyph) (offset : Nat) (rest : List Letter) :
    ∃ after, quotedPieces offset (g.chars.map Letter.char ++ rest) =
      (g.pieces ++ (quotedPieces after rest).1, (quotedPieces after rest).2) := by
  cases g with
  | plain c unescaped =>
    simp only [standsForItself, Bool.and_eq_true, bne_iff_ne, Bool.not_eq_true'] at unescaped
    obtain ⟨⟨quote, backslash⟩, control⟩ := unescaped
    refine ⟨offset + (Letter.char c).size, ?_⟩
    show quotedPieces offset (.char c :: rest) = _
    rw [quotedPieces.eq_def]
    simp [Glyph.pieces, quote, backslash, control]
  | short letter c escapes =>
    have hex : letter ≠ 'u' := by
      rintro rfl
      cases escapes
    refine ⟨offset + 2, ?_⟩
    show quotedPieces offset (.char '\\' :: .char letter :: rest) = _
    rw [quotedPieces.eq_def]
    simp [Glyph.pieces, hex, escapes]
  | unit u whole => exact ⟨offset + 6, quotedPieces_unit u offset rest⟩
  | pair leading trailing leads trails =>
    refine ⟨offset + 6 + 6, ?_⟩
    show quotedPieces offset ((leading.chars ++ trailing.chars).map Letter.char ++ rest) = _
    rw [List.map_append, List.append_assoc, quotedPieces_unit, quotedPieces_unit]
    rfl

/-- Glyphs are read as their pieces up to the quote that closes them. -/
theorem quotedPieces_closed (glyphs : List Glyph) (offset : Nat) (rest : List Letter) :
    ∃ stop, quotedPieces offset ((closedChars glyphs).map Letter.char ++ rest) =
      (glyphs.flatMap Glyph.pieces, .closed, ⟨stop, rest⟩) := by
  induction glyphs generalizing offset with
  | nil =>
    refine ⟨offset + 1, ?_⟩
    show quotedPieces offset (.char '"' :: rest) = _
    rw [quotedPieces.eq_def]
    rfl
  | cons g glyphs ih =>
    obtain ⟨after, front⟩ := quotedPieces_glyph g offset
      ((closedChars glyphs).map Letter.char ++ rest)
    obtain ⟨stop, back⟩ := ih after
    refine ⟨stop, ?_⟩
    have split : (closedChars (g :: glyphs)).map Letter.char ++ rest =
        g.chars.map Letter.char ++ ((closedChars glyphs).map Letter.char ++ rest) := by
      simp [closedChars]
    rw [split, front, back]
    rfl

/-- The pieces of a glyph stand for its character. -/
theorem characters_glyph (g : Glyph) (stop offset : Nat) (pieces : List Piece) :
    ∃ after, Quoted.characters .closed stop offset (g.pieces ++ pieces) =
      (Quoted.characters .closed stop after pieces).map (g.char :: ·) := by
  cases g with
  | plain c unescaped => exact ⟨offset + c.utf8Size, rfl⟩
  | short letter c escapes => exact ⟨offset + 2, rfl⟩
  | unit u whole =>
    refine ⟨offset + 6, ?_⟩
    show Quoted.characters .closed stop offset (.unit u.code :: pieces) = _
    rw [Quoted.characters.eq_def]
    simp only [whole.1, whole.2, Bool.false_eq_true, if_false]
    rfl
  | pair leading trailing leads trails =>
    have ahead : isTrailing leading.code = false := by
      simp only [isLeading, Bool.and_eq_true, decide_eq_true_eq] at leads
      simp only [isTrailing, Bool.and_eq_false_iff, decide_eq_false_iff_not]
      omega
    refine ⟨offset + 12, ?_⟩
    show Quoted.characters .closed stop offset
      (.unit leading.code :: .unit trailing.code :: pieces) = _
    rw [Quoted.characters.eq_def]
    simp only [ahead, leads, trails, Bool.false_eq_true, if_false, if_true]
    rfl

/-- The pieces of glyphs stand for their characters. -/
theorem characters_glyphs (glyphs : List Glyph) (stop offset : Nat) :
    Quoted.characters .closed stop offset (glyphs.flatMap Glyph.pieces) =
      .ok (glyphs.map Glyph.char) := by
  induction glyphs generalizing offset with
  | nil => rfl
  | cons g glyphs ih =>
    obtain ⟨after, front⟩ := characters_glyph g stop offset (glyphs.flatMap Glyph.pieces)
    rw [List.flatMap_cons, front, ih after]
    rfl

/-- A closed quoted text is read, whatever follows it. -/
theorem readQuoted_closed (glyphs : List Glyph) (offset : Nat) (rest : List Letter) :
    ∃ quoted stop, readQuoted offset ((closedChars glyphs).map Letter.char ++ rest) =
        (quoted, some ⟨stop, rest⟩) ∧
      quoted.read = .ok (glyphText glyphs) := by
  obtain ⟨stop, pieces⟩ := quotedPieces_closed glyphs offset rest
  refine ⟨⟨offset, glyphs.flatMap Glyph.pieces, .closed, stop⟩, stop, ?_, ?_⟩
  · simp [readQuoted, pieces]
  · simp only [Quoted.read, characters_glyphs]
    rfl

/-! ## Words -/

/-- A word is read, whatever follows it. -/
theorem readWord_self (value : Outline) (word : List Char) (offset : Nat) (rest : List Letter) :
    ∃ stop, readWord value offset word (word.map Letter.char ++ rest) =
      (value, some ⟨stop, rest⟩) := by
  induction word generalizing offset with
  | nil => exact ⟨offset, by simp [readWord]⟩
  | cons w word ih =>
    obtain ⟨stop, reads⟩ := ih (offset + 1)
    exact ⟨stop, by simpa [readWord] using reads⟩

/-! ## Numbers -/

/-- Whether a letter does not go on with digits. -/
def EndsDigits (rest : List Letter) : Prop := ∀ l ∈ rest.head?, digit? l = none

/-- Whether letters do not go on with a number. -/
def EndsNumber (rest : List Letter) : Prop :=
  ∀ l ∈ rest.head?, digit? l = none ∧ l ≠ .char '.' ∧ l ≠ .char 'e' ∧ l ≠ .char 'E'

/-- A digit is one. -/
theorem digit?_char {c : Char} (isDigit : c.isDigit = true) : digit? (.char c) = some c :=
  if_pos isDigit

/-- Digits are taken up to where they end. -/
theorem takeDigits_append {digits : List Char} {rest : List Letter}
    (areDigits : ∀ c ∈ digits, c.isDigit = true) (ends : EndsDigits rest) :
    takeDigits (digits.map Letter.char ++ rest) = digits := by
  induction digits with
  | nil =>
    cases rest with
    | nil => rfl
    | cons l rest =>
      have ended := ends l rfl
      simp [takeDigits, ended]
  | cons d digits ih =>
    have first := digit?_char (areDigits d List.mem_cons_self)
    have later := ih fun c member => areDigits c (List.mem_cons_of_mem _ member)
    simp [takeDigits, first, later]

/-- What does not go on with a number does not go on with digits. -/
theorem EndsNumber.endsDigits {rest : List Letter} (ends : EndsNumber rest) : EndsDigits rest :=
  fun l first => (ends l first).1

/-- The letters after digits are those that follow them. -/
theorem drop_digits (digits : List Char) (rest : List Letter) :
    (digits.map Letter.char ++ rest).drop digits.length = rest := by
  rw [← List.length_map (f := Letter.char)]
  exact List.drop_left

/-- An exponent is read after its mark. -/
theorem readExponent_digits (minus : Bool) (whole fraction : List Char) (sign : Option Bool)
    (digits : Digits) (offset : Nat) {rest : List Letter} (ends : EndsDigits rest) :
    ∃ stop, readExponent minus whole fraction offset
        (((sign.map fun minus => if minus then '-' else '+').toList ++ digits.chars).map
          Letter.char ++ rest) =
      (.number ⟨minus, whole, fraction, some (sign.getD false, digits.chars), stop⟩,
        some ⟨stop, rest⟩) := by
  have taken := takeDigits_append digits.areDigits ends
  have nonempty := digits.nonempty
  cases sign with
  | none =>
    -- The first digit is no sign.
    obtain ⟨d, more, first⟩ := List.exists_cons_of_ne_nil nonempty
    have isDigit : d.isDigit = true := digits.areDigits d (by simp [first])
    have plus : d ≠ '+' := by
      rintro rfl
      cases isDigit
    have hyphen : d ≠ '-' := by
      rintro rfl
      cases isDigit
    rw [first, List.map_cons, List.cons_append] at taken
    refine ⟨offset + (d :: more).length, ?_⟩
    show readExponent minus whole fraction offset (digits.chars.map Letter.char ++ rest) = _
    rw [first, List.map_cons, List.cons_append]
    simp [readExponent, plus, hyphen, taken]
  | some negative =>
    refine ⟨offset + 1 + digits.chars.length, ?_⟩
    cases negative <;> simp [readExponent, taken, nonempty]

/-- The end of a number is read, with its exponent if it has one. -/
theorem readNumberEnd_exponentChars (n : SpelledNumeral) (whole fraction : List Char)
    (offset : Nat) {rest : List Letter} (ends : EndsNumber rest) :
    ∃ stop, readNumberEnd n.minus whole fraction offset
        (n.exponentChars.map Letter.char ++ rest) =
      (.number ⟨n.minus, whole, fraction,
        n.exponent.map fun e => (e.sign.getD false, e.digits.chars), stop⟩, some ⟨stop, rest⟩) := by
  obtain ⟨minus, _, _, _, exponent⟩ := n
  cases exponent with
  | none =>
    refine ⟨offset, ?_⟩
    show readNumberEnd minus whole fraction offset rest = _
    cases rest with
    | nil => rfl
    | cons l rest =>
      obtain ⟨-, -, small, capital⟩ := ends l rfl
      simp [readNumberEnd, small, capital]
  | some e =>
    obtain ⟨stop, reads⟩ := readExponent_digits minus whole fraction e.sign e.digits (offset + 1)
      ends.endsDigits
    refine ⟨stop, Eq.trans ?_ reads⟩
    cases capital : e.capital <;>
      simp [readNumberEnd, SpelledNumeral.exponentChars, SpelledExponent.chars, capital]

/-- An exponent or the end of a number ends digits and is no point. -/
theorem exponentChars_endsDigits (n : SpelledNumeral) {rest : List Letter}
    (ends : EndsNumber rest) :
    EndsDigits (n.exponentChars.map Letter.char ++ rest) ∧
      (n.exponentChars.map Letter.char ++ rest).head? ≠ some (.char '.') := by
  cases exponent : n.exponent with
  | none =>
    simp only [SpelledNumeral.exponentChars, exponent, Option.map_none, Option.getD_none,
      List.map_nil, List.nil_append]
    exact ⟨ends.endsDigits, fun point => (ends _ point).2.1 rfl⟩
  | some e =>
    simp only [SpelledNumeral.exponentChars, exponent, Option.map_some, Option.getD_some,
      SpelledExponent.chars, EndsDigits]
    cases e.capital <;> simp [digit?]

/-- A number is read without its sign, up to where it ends. -/
theorem readNumber_unsigned (n : SpelledNumeral) (offset : Nat) {rest : List Letter}
    (ends : EndsNumber rest) :
    ∃ stop, readNumber n.minus offset (n.unsigned.map Letter.char ++ rest) =
      (.number (n.numeral stop), some ⟨stop, rest⟩) := by
  obtain ⟨exponentEnds, pointless⟩ := exponentChars_endsDigits n ends
  have split : n.unsigned.map Letter.char ++ rest =
      n.whole.chars.map Letter.char ++ (n.tail.map Letter.char ++ rest) := by
    simp [SpelledNumeral.unsigned]
  have tailEnds : EndsDigits (n.tail.map Letter.char ++ rest) := by
    cases fraction : n.fraction with
    | none => simpa [SpelledNumeral.tail, fraction] using exponentEnds
    | some digits => simp [SpelledNumeral.tail, fraction, EndsDigits, digit?]
  have taken := takeDigits_append n.whole.areDigits tailEnds
  have dropped := drop_digits n.whole.chars (n.tail.map Letter.char ++ rest)
  rw [split, readNumber.eq_def]
  simp only [taken]
  split
  · exact absurd ‹_› n.whole.nonempty
  · rename_i d more padded
    cases n.unpadded _ padded
  · simp only [dropped]
    cases fraction : n.fraction with
    | none =>
      have tail : n.tail = n.exponentChars := by simp [SpelledNumeral.tail, fraction]
      rw [tail] at *
      split
      · rename_i point
        simp [point] at pointless
      · obtain ⟨stop, reads⟩ := readNumberEnd_exponentChars n n.whole.chars []
          (offset + n.whole.chars.length) ends
        exact ⟨stop, by simp [reads, SpelledNumeral.numeral, fraction]⟩
    | some digits =>
      have tail : n.tail.map Letter.char ++ rest = .char '.' ::
          (digits.chars.map Letter.char ++ (n.exponentChars.map Letter.char ++ rest)) := by
        simp [SpelledNumeral.tail, fraction]
      have fractionTaken := takeDigits_append digits.areDigits exponentEnds
      have fractionDropped := drop_digits digits.chars (n.exponentChars.map Letter.char ++ rest)
      obtain ⟨stop, reads⟩ := readNumberEnd_exponentChars n n.whole.chars digits.chars
        (offset + n.whole.chars.length + 1 + digits.chars.length) ends
      refine ⟨stop, ?_⟩
      simp [tail, fractionTaken, digits.nonempty, reads, SpelledNumeral.numeral, fraction]

/-- Where a numeral ends is of no account to the number that it is. -/
theorem value_of_stop {numeral : Numeral} {v : Number} (stop : Nat)
    (counts : numeral.value = .ok v) : Numeral.value { numeral with stop := stop } = .ok v := by
  -- The offset only occurs in faults, and every branch that is not one is the same.
  obtain ⟨minus, whole, fraction, exponent, _⟩ := numeral
  simp only [Numeral.value, Numeral.mantissa] at counts ⊢
  split at counts
  · rename_i plain
    rw [if_pos plain]
    grind
  · rename_i marked
    rw [if_neg marked]
    rcases exponent with _ | ⟨down, digits⟩
    · grind
    · dsimp only at counts ⊢
      generalize readPower 0 0 digits = power at counts ⊢
      cases power with
      | inl size => grind
      | inr count => grind
/-- A spelled number is read as itself. -/
theorem SpelledNumber.value_numeral (n : SpelledNumber) (stop : Nat) :
    (n.numeral stop).value = .ok n.number := value_of_stop stop n.counts

end Pipewright.Json
