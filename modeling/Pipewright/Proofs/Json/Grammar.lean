import Pipewright.Proofs.Json.Reading

/-!
# What is read is a spelling

Whatever is read as a value is a spelling of it: each part that a reader takes from the front of
the letters is a spelled part, and what it leaves is what follows. With the reading of spellings
this says which texts are read, and as what (`parse_eq_ok_iff_spelling`).
-/
namespace Pipewright.Json

/-! ## Gaps -/

/-- What is skipped is a gap. -/
theorem exists_gap (rest : List Letter) :
    ∃ gap : Gap, rest = gap.chars.map Letter.char ++ dropSpaces rest := by
  induction rest with
  | nil => exact ⟨.none, rfl⟩
  | cons l rest ih =>
    cases space : Cursor.isSpace l with
    | false => exact ⟨.none, (dropSpaces_cons space).symm⟩
    | true =>
      obtain ⟨gap, split⟩ := ih
      cases l with
      | stray bytes => cases space
      | char c =>
        refine ⟨⟨c :: gap.chars, ?_⟩, ?_⟩
        · rintro d (_ | ⟨_, member⟩)
          · exact space
          · exact gap.areSpaces d member
        · have dropped : dropSpaces (.char c :: rest) = dropSpaces rest :=
            List.dropWhile_cons_of_pos space
          rw [dropped, List.map_cons, List.cons_append, ← split]

/-- What a reader skips is a gap. -/
theorem exists_gap_skipSpace (c : Cursor) :
    ∃ gap : Gap, c.rest = gap.chars.map Letter.char ++ c.skipSpace.rest := by
  rw [skipSpace_rest]
  exact exists_gap c.rest

/-- A gap after another one is one gap. -/
def Gap.append (gap later : Gap) : Gap :=
  ⟨gap.chars ++ later.chars, fun c member =>
    (List.mem_append.mp member).elim (gap.areSpaces c) (later.areSpaces c)⟩

/-! ## Quoted texts -/

/-- How the first piece of a quoted text that is closed stands in the letters. -/
inductive StartsQuoted (after : Cursor) : List Letter → List Piece → Prop where
  /-- The quote that closes it comes first. -/
  | closed : StartsQuoted after (.char '"' :: after.rest) []
  /-- A letter that stands for itself. -/
  | plain {l : Letter} {rest : List Letter} {pieces : List Piece} {offset : Nat}
      (quote : l ≠ .char '"') (backslash : l ≠ .char '\\') (control : isRawControl l = false)
      (later : quotedPieces offset rest = (pieces, .closed, after)) :
      StartsQuoted after (l :: rest) (.plain l :: pieces)
  /-- An escape by one letter. -/
  | short {letter c : Char} {rest : List Letter} {pieces : List Piece} {offset : Nat}
      (escapes : shortEscape? (.char letter) = some c)
      (later : quotedPieces offset rest = (pieces, .closed, after)) :
      StartsQuoted after (.char '\\' :: .char letter :: rest) (.short c :: pieces)
  /-- An escaped unit. -/
  | unit {u : HexUnit} {rest : List Letter} {pieces : List Piece} {offset : Nat}
      (later : quotedPieces offset rest = (pieces, .closed, after)) :
      StartsQuoted after (u.chars.map Letter.char ++ rest) (.unit u.code :: pieces)

/-- Only characters are hexadecimal digits. -/
theorem exists_char_of_hexValue? {l : Letter} {n : Nat} (value : hexValue? l = some n) :
    ∃ c, l = .char c := by
  cases l with
  | char c => exact ⟨c, rfl⟩
  | stray bytes => cases value

/-- Four letters that are a unit are a spelled one. -/
theorem exists_hexUnit {a b c d : Letter} {code : Nat} (reads : hexUnit? a b c d = some code) :
    ∃ u : HexUnit, u.code = code ∧
      u.chars.map Letter.char = [.char '\\', .char 'u', a, b, c, d] := by
  have values := reads
  simp only [hexUnit?, Option.bind_eq_bind, Option.bind_eq_some_iff] at values
  obtain ⟨_, first, _, second, _, third, _, fourth, -⟩ := values
  obtain ⟨a, rfl⟩ := exists_char_of_hexValue? first
  obtain ⟨b, rfl⟩ := exists_char_of_hexValue? second
  obtain ⟨c, rfl⟩ := exists_char_of_hexValue? third
  obtain ⟨d, rfl⟩ := exists_char_of_hexValue? fourth
  exact ⟨⟨a, b, c, d, code, reads⟩, rfl, rfl⟩

/-- A closed quoted text starts with its first piece. -/
theorem startsQuoted_of_closed {offset : Nat} {rest : List Letter} {pieces : List Piece}
    {after : Cursor} (read : quotedPieces offset rest = (pieces, .closed, after)) :
    StartsQuoted after rest pieces := by
  rw [quotedPieces.eq_def] at read
  rcases rest with _ | ⟨l, rest⟩
  · cases read
  dsimp only at read
  by_cases quote : l = .char '"'
  · rw [if_pos quote] at read
    cases read
    exact quote ▸ .closed
  rw [if_neg quote] at read
  by_cases backslash : l = .char '\\'
  · rw [if_pos backslash] at read
    subst backslash
    rcases rest with _ | ⟨e, rest⟩
    · cases read
    dsimp only at read
    by_cases hex : e = .char 'u'
    · rw [if_pos hex] at read
      subst hex
      split at read
      · split at read
        · rename_i code reads
          obtain ⟨u, rfl, chars⟩ := exists_hexUnit reads
          obtain ⟨rfl, closed⟩ := Prod.mk.inj read
          have start := StartsQuoted.unit (u := u) (Prod.ext rfl closed)
          rw [chars] at start
          exact start
        · cases read
      · split at read <;> cases read
    · rw [if_neg hex] at read
      split at read
      · rename_i c escapes
        obtain ⟨rfl, closed⟩ := Prod.mk.inj read
        cases e with
        | stray bytes => cases escapes
        | char letter => exact .short escapes (Prod.ext rfl closed)
      · cases read
  · rw [if_neg backslash] at read
    split at read
    · cases read
    · rename_i raw
      obtain ⟨rfl, closed⟩ := Prod.mk.inj read
      exact .plain quote backslash (eq_false_of_ne_true raw) (Prod.ext rfl closed)

/-- A unit that stands for a character is one of its own, or leads a pair with the next. -/
theorem whole_or_pair {stop start code : Nat} {pieces : List Piece} {cs : List Char}
    (stand : Quoted.characters .closed stop start (.unit code :: pieces) = .ok cs) :
    (isTrailing code = false ∧ isLeading code = false) ∨
      isLeading code = true ∧ ∃ second others, pieces = .unit second :: others ∧
        isTrailing second = true := by
  rw [Quoted.characters.eq_def] at stand
  dsimp only at stand
  cases trailing : isTrailing code with
  | true =>
    rw [if_pos trailing] at stand
    cases stand
  | false =>
    rw [if_neg (by simp [trailing])] at stand
    cases leading : isLeading code with
    | false => exact .inl ⟨rfl, rfl⟩
    | true =>
      rw [if_pos leading] at stand
      rcases pieces with _ | ⟨_ | _ | second, others⟩
      · cases stand
      · cases stand
      · cases stand
      · dsimp only at stand
        split at stand
        · rename_i trails
          exact .inr ⟨rfl, second, others, rfl, trails⟩
        · cases stand

/-- A closed quoted text that stands for characters starts with a glyph, if not with its end. -/
theorem exists_first_glyph {pieces : List Piece} {offset stop start : Nat} {rest : List Letter}
    {after : Cursor} {cs : List Char} (nonempty : pieces ≠ [])
    (read : quotedPieces offset rest = (pieces, .closed, after))
    (stand : Quoted.characters .closed stop start pieces = .ok cs) :
    ∃ (g : Glyph) (others : List Piece) (place : Nat) (left : List Letter),
      pieces = g.pieces ++ others ∧ rest = g.chars.map Letter.char ++ left ∧
        quotedPieces place left = (others, .closed, after) := by
  cases startsQuoted_of_closed read with
  | closed => exact absurd rfl nonempty
  | @plain l rest pieces _ quote backslash control later =>
    cases l with
    | stray bytes => cases stand
    | char c =>
      have unescaped : standsForItself c = true := by
        simp only [ne_eq, Letter.char.injEq] at quote backslash
        simp [standsForItself, quote, backslash, control]
      exact ⟨.plain c unescaped, pieces, _, rest, rfl, rfl, later⟩
  | @short letter c rest pieces _ escapes later =>
    exact ⟨.short letter c escapes, pieces, _, rest, rfl, rfl, later⟩
  | @unit u rest pieces _ later =>
    obtain whole | ⟨leads, code, others, rfl, trails⟩ := whole_or_pair stand
    · exact ⟨.unit u whole, pieces, _, rest, rfl, rfl, later⟩
    · -- the second unit of a pair is spelled right after the first
      cases startsQuoted_of_closed later with
      | @unit second left _ place rightAfter =>
        refine ⟨.pair u second leads trails, others, place, left, rfl, ?_, rightAfter⟩
        rw [Glyph.chars, List.map_append, List.append_assoc]

/-- A glyph takes a piece. -/
theorem Glyph.pieces_ne_nil (g : Glyph) : g.pieces ≠ [] := by
  cases g <;> exact List.cons_ne_nil _ _

/-- What follows a glyph stands for the characters after its own. -/
theorem stand_after_glyph {g : Glyph} {stop start : Nat} {others : List Piece} {cs : List Char}
    (stand : Quoted.characters .closed stop start (g.pieces ++ others) = .ok cs) :
    ∃ next more, Quoted.characters .closed stop next others = .ok more ∧ cs = g.char :: more := by
  obtain ⟨next, front⟩ := characters_glyph g stop start others
  rw [front] at stand
  cases stands : Quoted.characters .closed stop next others with
  | error fault =>
    rw [stands] at stand
    cases stand
  | ok more =>
    rw [stands] at stand
    exact ⟨next, more, stands, (Except.ok.inj stand).symm⟩

/-- Pieces of a closed quoted text that stand for characters are glyphs. -/
theorem exists_glyphs {pieces : List Piece} {offset stop start : Nat} {rest : List Letter}
    {after : Cursor} {cs : List Char} (read : quotedPieces offset rest = (pieces, .closed, after))
    (stand : Quoted.characters .closed stop start pieces = .ok cs) :
    ∃ glyphs, rest = (closedChars glyphs).map Letter.char ++ after.rest ∧
      glyphs.map Glyph.char = cs := by
  -- A pair takes two pieces at once.
  induction n : pieces.length using Nat.strong_induction_on
    generalizing pieces offset start rest cs with
  | _ n ih =>
    subst n
    by_cases none : pieces = []
    · subst none
      cases startsQuoted_of_closed read
      cases stand
      exact ⟨[], rfl, rfl⟩
    · obtain ⟨g, others, place, left, rfl, rfl, later⟩ := exists_first_glyph none read stand
      obtain ⟨next, more, stands, rfl⟩ := stand_after_glyph stand
      have shorter : others.length < (g.pieces ++ others).length := by
        rw [List.length_append]
        have := List.length_pos_iff.mpr g.pieces_ne_nil
        omega
      obtain ⟨glyphs, rfl, rfl⟩ := ih _ shorter later stands rfl
      exact ⟨g :: glyphs, by simp [closedChars], rfl⟩

/-- Pieces that stand for characters are those of a closed quoted text. -/
theorem closed_of_characters {finish : QuoteEnd} {stop offset : Nat} {pieces : List Piece}
    {cs : List Char} (stand : Quoted.characters finish stop offset pieces = .ok cs) :
    finish = .closed := by
  fun_induction Quoted.characters finish stop offset pieces generalizing cs with
  | case1 offset unfaulted =>
    cases finish with
    | closed => rfl
    | _ => cases unfaulted
  | case3 _ _ _ ih | case5 _ _ _ ih | case10 _ _ _ _ _ _ _ ih | case12 _ _ _ _ _ ih =>
    exact ih (bind_eq_ok.mp stand).choose_spec.1
  | _ => cases stand

/-- A quoted text that is read is spelled, with the quote that closes it. -/
theorem exists_quoted {offset : Nat} {rest : List Letter} {quoted : Quoted}
    {after : Option Cursor} {s : String} (read : readQuoted offset rest = (quoted, after))
    (stands : quoted.read = .ok s) :
    ∃ left glyphs, after = some left ∧
      rest = (closedChars glyphs).map Letter.char ++ left.rest ∧ glyphText glyphs = s := by
  obtain ⟨rfl, ends⟩ := Prod.mk.inj read
  obtain ⟨cs, stand, same⟩ := bind_eq_ok.mp stands
  cases same
  have finish := closed_of_characters stand
  rw [if_pos finish] at ends
  rw [finish] at stand
  obtain ⟨glyphs, letters, rfl⟩ := exists_glyphs
    (show quotedPieces offset rest = (_, .closed, _) from Prod.ext rfl (Prod.ext finish rfl)) stand
  exact ⟨_, glyphs, ends.symm, letters, rfl⟩

/-! ## Words -/

/-- A word that is read is that word. -/
theorem word_of_readWord {value o : Outline} {word : List Char} {offset depth : Nat}
    {rest : List Letter} {after : Option Cursor} {v : Json}
    (read : readWord value offset word rest = (o, after)) (strict : o.strict depth = .ok v) :
    ∃ left, after = some left ∧ rest = word.map Letter.char ++ left.rest ∧ o = value := by
  induction word generalizing offset rest with
  | nil =>
    cases read
    exact ⟨_, rfl, rfl, rfl⟩
  | cons w word ih =>
    cases rest with
    | nil =>
      cases read
      cases strict
    | cons l rest =>
      rw [readWord] at read
      split at read
      · rename_i same
        obtain ⟨left, rfl, rfl, rfl⟩ := ih read
        exact ⟨left, rfl, by rw [same]; rfl, rfl⟩
      · cases read
        cases strict

/-! ## Numbers -/

/-- What is taken as digits are digits, and stands first. -/
theorem takeDigits_split (rest : List Letter) :
    (∀ c ∈ takeDigits rest, c.isDigit = true) ∧
      rest = (takeDigits rest).map Letter.char ++ rest.drop (takeDigits rest).length := by
  induction rest with
  | nil => exact ⟨by simp [takeDigits], rfl⟩
  | cons l rest ih =>
    cases found : digit? l with
    | none => simp [takeDigits, found]
    | some d =>
      cases l with
      | stray bytes => cases found
      | char c =>
        simp only [digit?, Option.ite_none_right_eq_some, Option.some.injEq] at found
        obtain ⟨isDigit, rfl⟩ := found
        have digit : digit? (.char c) = some c := digit?_char isDigit
        simp only [takeDigits, digit]
        refine ⟨?_, by simpa using ih.2⟩
        rintro e (_ | ⟨_, member⟩)
        · exact isDigit
        · exact ih.1 e member

/-- Digits that are taken from letters, at least one, with the letters after them. -/
theorem exists_digits {rest : List Letter} (nonempty : takeDigits rest ≠ []) :
    ∃ digits : Digits, digits.chars = takeDigits rest ∧
      rest = digits.chars.map Letter.char ++ rest.drop digits.chars.length := by
  obtain ⟨areDigits, split⟩ := takeDigits_split rest
  exact ⟨⟨takeDigits rest, areDigits, nonempty⟩, rfl, split⟩

/-- The sign of an exponent, and the letters after it. -/
def takeSign : List Letter → Option Bool × List Letter
  | .char '+' :: rest => (some false, rest)
  | .char '-' :: rest => (some true, rest)
  | rest => (none, rest)

/-- A sign is spelled. -/
theorem takeSign_split (rest : List Letter) :
    rest = ((takeSign rest).1.map fun minus => if minus then '-' else '+').toList.map Letter.char ++
      (takeSign rest).2 := by
  unfold takeSign
  split <;> rfl

/-- An exponent is read after its sign. -/
theorem readExponent_takeSign (minus : Bool) (whole fraction : List Char) (offset : Nat)
    (rest : List Letter) :
    readExponent minus whole fraction offset rest =
      let (sign, digitsOn) := takeSign rest
      let offset := if sign.isSome then offset + 1 else offset
      if (takeDigits digitsOn).isEmpty then
        match digitsOn with
        | [] => brokenNumber .endInValue offset
        | _ :: _ => brokenNumber .badNumber (offset + 1)
      else
        let stop := offset + (takeDigits digitsOn).length
        (.number ⟨minus, whole, fraction, some (sign.getD false, takeDigits digitsOn), stop⟩,
          some ⟨stop, digitsOn.drop (takeDigits digitsOn).length⟩) := by
  rcases rest with _ | ⟨l, rest⟩
  · rfl
  by_cases plus : l = .char '+'
  · subst plus
    rfl
  by_cases hyphen : l = .char '-'
  · subst hyphen
    rfl
  have unsigned : takeSign (l :: rest) = (none, l :: rest) := by
    simp [takeSign, plus, hyphen]
  rw [unsigned]
  simp [readExponent, plus, hyphen]

section Numbers

variable {minus : Bool} {whole fraction : List Char} {offset depth : Nat} {rest : List Letter}
  {o : Outline} {after : Option Cursor} {v : Json}

/-- An exponent that is read is spelled. -/
theorem exists_exponent (read : readExponent minus whole fraction offset rest = (o, after))
    (strict : o.strict depth = .ok v) :
    ∃ left, after = some left ∧ ∃ sign : Option Bool, ∃ digits : Digits, ∃ stop,
      rest = ((sign.map fun minus => if minus then '-' else '+').toList ++ digits.chars).map
        Letter.char ++ left.rest ∧
      o = .number ⟨minus, whole, fraction, some (sign.getD false, digits.chars), stop⟩ := by
  rw [readExponent_takeSign] at read
  have split := takeSign_split rest
  dsimp only at read
  by_cases empty : (takeDigits (takeSign rest).2).isEmpty = true
  · rw [if_pos empty] at read
    split at read
    · cases read
      cases strict
    · cases read
      cases strict
  · rw [if_neg empty] at read
    cases read
    obtain ⟨digits, chars, digitsOn⟩ := exists_digits (fun none => empty (by rw [none]; rfl))
    refine ⟨_, rfl, (takeSign rest).1, digits, _, ?_, by rw [chars]⟩
    rw [List.map_append, List.append_assoc, ← chars, ← digitsOn]
    exact split

/-- The end of a number that is read is spelled. -/
theorem exists_numberEnd (read : readNumberEnd minus whole fraction offset rest = (o, after))
    (strict : o.strict depth = .ok v) :
    ∃ left, after = some left ∧ ∃ exponent : Option SpelledExponent, ∃ stop,
      rest = ((exponent.map SpelledExponent.chars).getD []).map Letter.char ++ left.rest ∧
      o = .number ⟨minus, whole, fraction,
        exponent.map fun e => (e.sign.getD false, e.digits.chars), stop⟩ := by
  unfold readNumberEnd at read
  split at read
  · obtain ⟨left, rfl, sign, digits, stop, rfl, rfl⟩ := exists_exponent read strict
    exact ⟨left, rfl, some ⟨false, sign, digits⟩, stop, by simp [SpelledExponent.chars], rfl⟩
  · obtain ⟨left, rfl, sign, digits, stop, rfl, rfl⟩ := exists_exponent read strict
    exact ⟨left, rfl, some ⟨true, sign, digits⟩, stop, by simp [SpelledExponent.chars], rfl⟩
  · cases read
    exact ⟨_, rfl, none, offset, rfl, rfl⟩

/-- A number that is read is spelled, with its sign read before. -/
theorem exists_numeral (read : readNumber minus offset rest = (o, after))
    (strict : o.strict depth = .ok v) :
    ∃ left, after = some left ∧ ∃ n : SpelledNumeral, ∃ stop, n.minus = minus ∧
      rest = n.unsigned.map Letter.char ++ left.rest ∧ o = .number (n.numeral stop) := by
  rw [readNumber.eq_def] at read
  dsimp only at read
  split at read
  · split at read
    · cases read
      cases strict
    · cases read
      cases strict
  · cases read
    cases strict
  · rename_i nonempty padded
    obtain ⟨whole, chars, front⟩ := exists_digits nonempty
    have unpadded : ∀ more, whole.chars = '0' :: more → more = [] := by
      rintro (_ | ⟨d, more⟩) zero
      · rfl
      · exact absurd (chars.symm.trans zero) (padded d more)
    rw [← chars] at read
    split at read
    · rename_i point
      split at read
      · split at read
        · cases read
          cases strict
        · cases read
          cases strict
      · rename_i someDigits
        obtain ⟨fraction, fractionChars, middle⟩ :=
          exists_digits (fun none => someDigits (by rw [none]; rfl))
        rw [← fractionChars] at read
        obtain ⟨left, rfl, exponent, stop, back, rfl⟩ := exists_numberEnd read strict
        refine ⟨left, rfl, ⟨minus, whole, unpadded, some fraction, exponent⟩, stop, rfl, ?_, rfl⟩
        rw [back] at middle
        rw [point, middle] at front
        rw [front]
        simp [SpelledNumeral.unsigned, SpelledNumeral.tail, SpelledNumeral.exponentChars]
    · obtain ⟨left, rfl, exponent, stop, back, rfl⟩ := exists_numberEnd read strict
      refine ⟨left, rfl, ⟨minus, whole, unpadded, none, exponent⟩, stop, rfl, ?_, rfl⟩
      rw [back] at front
      rw [front]
      simp [SpelledNumeral.unsigned, SpelledNumeral.tail, SpelledNumeral.exponentChars]

end Numbers

/-- A numeral that has a value is that of a spelled number. -/
theorem exists_number {n : SpelledNumeral} {stop depth : Nat} {value : Json}
    (strict : (Outline.number (n.numeral stop)).strict depth = .ok value) :
    ∃ number : SpelledNumber, number.toSpelledNumeral = n ∧ value = .number number.number := by
  obtain ⟨number, counts, same⟩ := bind_eq_ok.mp strict
  cases same
  exact ⟨⟨n, number, value_of_stop 0 counts⟩, rfl, rfl⟩

/-! ## Values -/

/-- Whether letters start with the text of a value, which others follow. -/
def StartsWith (letters : List Letter) (value : Json) (rest : List Letter) : Prop :=
  ∃ s : Spelling, letters = s.chars.map Letter.char ++ rest ∧ s.value = value

/-- Whether letters start with the text of items, at least one, and the bracket of their list. -/
def StartsWithItems (letters : List Letter) (values : List Json) (rest : List Letter) : Prop :=
  ∃ items : List Spelling, items ≠ [] ∧
    letters = (Spelling.itemsChars items).map Letter.char ++ .char ']' :: rest ∧
    Spelling.itemsValue items = values

/-- Whether letters start with the text of members, at least one, and the bracket of their
object. -/
def StartsWithMembers (letters : List Letter) (values : List (String × Json))
    (rest : List Letter) : Prop :=
  ∃ members : List (SpelledName × Spelling), members ≠ [] ∧
    letters = (Spelling.membersChars members).map Letter.char ++ .char '\x7d' :: rest ∧
    Spelling.membersValue members = values

section Starts

variable {letters next rest : List Letter} {value : Json} {values : List Json}
  {named : List (String × Json)}

/-- A word that is read is the text of its value. -/
theorem startsWith_word {word o : Outline} {first : Char} {letters' : List Char}
    {offset depth : Nat} {after : Option Cursor} (s : Spelling)
    (spelled : s.chars = first :: letters') (means : word.strict depth = .ok s.value)
    (read : readWord word offset letters' rest = (o, after)) (strict : o.strict depth = .ok value) :
    ∃ left, after = some left ∧ StartsWith (.char first :: rest) value left.rest := by
  obtain ⟨left, rfl, rfl, rfl⟩ := word_of_readWord read strict
  cases means.symm.trans strict
  exact ⟨left, rfl, s, by rw [spelled]; rfl, rfl⟩

/-- A number that is read is, with its sign read before, the text of its value. -/
theorem startsWith_number {minus : Bool} {offset depth : Nat} {o : Outline}
    {after : Option Cursor} (read : readNumber minus offset rest = (o, after))
    (strict : o.strict depth = .ok value) :
    ∃ left, after = some left ∧
      StartsWith ((if minus then ['-'] else []).map Letter.char ++ rest) value left.rest := by
  obtain ⟨left, rfl, n, stop, signed, front, rfl⟩ := exists_numeral read strict
  obtain ⟨number, rfl, rfl⟩ := exists_number strict
  refine ⟨left, rfl, .number number, ?_, rfl⟩
  rw [front, Spelling.chars, SpelledNumeral.chars, signed, List.map_append, List.append_assoc]

/-- A gap before a value is part of its text. -/
theorem StartsWith.gap (starts : StartsWith letters value rest) (gap : Gap) :
    StartsWith (gap.chars.map Letter.char ++ letters) value rest := by
  obtain ⟨s, rfl, same⟩ := starts
  exact ⟨.spaced gap s .none, by simp [Spelling.chars, Gap.none], same⟩

/-- A value and the bracket after it are the last item of a list. -/
theorem StartsWith.lastItem (starts : StartsWith letters value next) (gap : Gap)
    (bracket : next = gap.chars.map Letter.char ++ .char ']' :: rest) :
    StartsWithItems letters [value] rest := by
  obtain ⟨s, rfl, rfl⟩ := starts
  refine ⟨[.spaced .none s gap], List.cons_ne_nil _ _, ?_, rfl⟩
  simp [bracket, Spelling.itemsChars, Spelling.chars, Gap.none]

/-- A value, the comma after it and more items are items. -/
theorem StartsWithItems.cons {more : List Letter} (later : StartsWithItems more values rest)
    (starts : StartsWith letters value next) (gap : Gap)
    (comma : next = gap.chars.map Letter.char ++ .char ',' :: more) :
    StartsWithItems letters (value :: values) rest := by
  obtain ⟨items, nonempty, rfl, rfl⟩ := later
  obtain ⟨s, rfl, rfl⟩ := starts
  obtain ⟨item, items, rfl⟩ := List.exists_cons_of_ne_nil nonempty
  refine ⟨.spaced .none s gap :: item :: items, List.cons_ne_nil _ _, ?_, rfl⟩
  simp [comma, Spelling.itemsChars, Spelling.chars, Gap.none]

/-- A gap before items is part of their text. -/
theorem StartsWithItems.gap (starts : StartsWithItems letters values rest) (gap : Gap) :
    StartsWithItems (gap.chars.map Letter.char ++ letters) values rest := by
  obtain ⟨items, nonempty, rfl, rfl⟩ := starts
  obtain ⟨item, items, rfl⟩ := List.exists_cons_of_ne_nil nonempty
  refine ⟨.spaced gap item .none :: items, List.cons_ne_nil _ _, ?_, rfl⟩
  cases items <;> simp [Spelling.itemsChars, Spelling.chars, Gap.none]

/-- A named value and the bracket after it are the last member of an object. -/
theorem StartsWith.lastMember (starts : StartsWith letters value next) (name : SpelledName)
    (gap : Gap) (bracket : next = gap.chars.map Letter.char ++ .char '\x7d' :: rest) :
    StartsWithMembers (name.chars.map Letter.char ++ letters) [(name.name, value)] rest := by
  obtain ⟨s, rfl, rfl⟩ := starts
  refine ⟨[(name, .spaced .none s gap)], List.cons_ne_nil _ _, ?_, rfl⟩
  simp [bracket, Spelling.membersChars, Spelling.chars, Gap.none]

/-- A named value, the comma after it and more members are members. -/
theorem StartsWithMembers.cons {more : List Letter} (later : StartsWithMembers more named rest)
    (starts : StartsWith letters value next) (name : SpelledName) (gap : Gap)
    (comma : next = gap.chars.map Letter.char ++ .char ',' :: more) :
    StartsWithMembers (name.chars.map Letter.char ++ letters) ((name.name, value) :: named)
      rest := by
  obtain ⟨members, nonempty, rfl, rfl⟩ := later
  obtain ⟨s, rfl, rfl⟩ := starts
  obtain ⟨member, members, rfl⟩ := List.exists_cons_of_ne_nil nonempty
  refine ⟨(name, .spaced .none s gap) :: member :: members, List.cons_ne_nil _ _, ?_, rfl⟩
  simp [comma, Spelling.membersChars, Spelling.chars, Gap.none]

/-- A gap before members is part of their text. -/
theorem StartsWithMembers.gap (starts : StartsWithMembers letters named rest) (gap : Gap) :
    StartsWithMembers (gap.chars.map Letter.char ++ letters) named rest := by
  obtain ⟨members, nonempty, rfl, rfl⟩ := starts
  obtain ⟨⟨name, member⟩, members, rfl⟩ := List.exists_cons_of_ne_nil nonempty
  refine ⟨({ name with before := gap.append name.before }, member) :: members,
    List.cons_ne_nil _ _, ?_, rfl⟩
  cases members <;>
    simp [Spelling.membersChars, SpelledName.chars, SpelledName.tail, Gap.append]

end Starts

/-- Whether what is read with some fuel is spelled, and leaves what follows. -/
structure ReadsSpelled (fuel : Nat) : Prop where
  /-- A value. -/
  value : ∀ c o after depth value, outlineValue fuel c = (o, after) →
    o.strict depth = .ok value →
      ∃ left, after = some left ∧ StartsWith c.rest value left.rest
  /-- The rest of a list after its bracket. -/
  list : ∀ c os close after depth values, outlineList fuel c = (os, close, after) →
    Outline.strictItems depth os = .ok values → close.check = .ok () →
      ∃ left, after = some left ∧ StartsWith (.char '[' :: c.rest) (.list values) left.rest
  /-- Items and their bracket. -/
  items : ∀ c os close after depth values, outlineItems fuel c = (os, close, after) →
    Outline.strictItems depth os = .ok values → close.check = .ok () →
      ∃ left, after = some left ∧ StartsWithItems c.rest values left.rest
  /-- The rest of an object after its bracket. -/
  object : ∀ c os bare close after depth values,
    outlineObject fuel c = (os, bare, close, after) →
    Outline.strictMembers depth os = .ok values → close.check = .ok () →
      ∃ left, after = some left ∧ StartsWith (.char '\x7b' :: c.rest) (.object values) left.rest
  /-- Members from the opening quote of a name on, and their bracket. -/
  members : ∀ c os close after depth values, outlineMembers fuel c = (os, close, after) →
    Outline.strictMembers depth os = .ok values → close.check = .ok () →
      ∃ left, after = some left ∧ StartsWithMembers (.char '"' :: c.rest) values left.rest

/-- How members are read with more fuel, from the opening quote of a name on, unless the object
ends with a fault after its last member. -/
inductive MembersRead (fuel : Nat) (c : Cursor) :
    List (Quoted × Outline) → Close → Option Cursor → Prop where
  /-- A name has no colon. -/
  | broken {quoted : Quoted} {opening : Opening} {cause skimmed : Cause} {offset : Nat} :
      MembersRead fuel c [(quoted, .broken opening cause skimmed offset)] .unread none
  /-- A value goes wrong. -/
  | unread {quoted : Quoted} {o : Outline} {at_ : Cursor}
      (member : outlineValue fuel at_ = (o, none)) :
      MembersRead fuel c [(quoted, o)] .unread none
  /-- A member is the last one. -/
  | last {quoted : Quoted} {colonOn : Cursor} {rest : List Letter} {o : Outline} {left : Cursor}
      {offset offset' : Nat} {next : List Letter}
      (quote : readQuoted c.offset c.rest = (quoted, some colonOn))
      (colon : colonOn.skipSpace.rest = .char ':' :: rest)
      (member : outlineValue fuel ⟨offset, rest⟩ = (o, some left))
      (bracket : left.skipSpace.rest = .char '\x7d' :: next) :
      MembersRead fuel c [(quoted, o)] .closed (some ⟨offset', next⟩)
  /-- A member is followed by others. -/
  | more {quoted : Quoted} {colonOn : Cursor} {rest : List Letter} {o : Outline} {left : Cursor}
      {offset offset' : Nat} {next more : List Letter} {others : List (Quoted × Outline)}
      {close : Close} {after : Option Cursor}
      (quote : readQuoted c.offset c.rest = (quoted, some colonOn))
      (colon : colonOn.skipSpace.rest = .char ':' :: rest)
      (member : outlineValue fuel ⟨offset, rest⟩ = (o, some left))
      (comma : left.skipSpace.rest = .char ',' :: next)
      (start : dropSpaces next = .char '"' :: more)
      (later : outlineMembers fuel ⟨offset', more⟩ = (others, close, after)) :
      MembersRead fuel c ((quoted, o) :: others) close after

/-- Members are read in one of these ways. -/
theorem membersRead_of_outlineMembers {fuel : Nat} {c : Cursor} {os : List (Quoted × Outline)}
    {close : Close} {after : Option Cursor}
    (read : outlineMembers (fuel + 1) c = (os, close, after)) (ended : close.check = .ok ()) :
    MembersRead fuel c os close after := by
  rw [outlineMembers] at read
  rcases quote : readQuoted c.offset c.rest with ⟨quoted, _ | colonOn⟩
  · rw [quote] at read
    cases read
    exact .broken
  rw [quote] at read
  dsimp only at read
  rcases letters : colonOn.skipSpace.rest with _ | ⟨l, rest⟩
  · rw [letters] at read
    cases read
    exact .broken
  rw [letters] at read
  dsimp only at read
  by_cases colon : l = .char ':'
  · rw [if_pos colon] at read
    subst colon
    rcases member : outlineValue fuel ⟨colonOn.skipSpace.offset + 1, rest⟩ with ⟨o, _ | left⟩
    · rw [member] at read
      cases read
      exact .unread member
    rw [member] at read
    dsimp only at read
    rcases ending : left.skipSpace.rest with _ | ⟨m, next⟩
    · rw [ending] at read
      cases read
      cases ended
    rw [ending] at read
    dsimp only at read
    by_cases bracket : m = .char '\x7d'
    · rw [if_pos bracket] at read
      cases read
      exact .last quote letters member (bracket ▸ ending)
    rw [if_neg bracket] at read
    by_cases comma : m = .char ','
    · rw [if_pos comma] at read
      subst comma
      have skipped := skipSpace_rest ⟨left.skipSpace.offset + 1, next⟩
      rcases start : (Cursor.skipSpace ⟨left.skipSpace.offset + 1, next⟩).rest with
        _ | ⟨q, more⟩
      · rw [start] at read
        cases read
        cases ended
      rw [start] at read skipped
      dsimp only at read
      by_cases quoteNext : q = .char '"'
      · rw [if_pos quoteNext] at read
        cases read
        exact .more quote letters member ending (quoteNext ▸ skipped.symm) rfl
      · rw [if_neg quoteNext] at read
        split at read
        · cases read
          cases ended
        · cases read
          cases ended
    · rw [if_neg comma] at read
      cases read
      cases ended
  · rw [if_neg colon] at read
    cases read
    exact .broken

/-- A name that is read is spelled with its colon before whatever follows. -/
theorem spelledName_of_readQuoted {c colonOn : Cursor} {quoted : Quoted} {rest : List Letter}
    {name : String} (quote : readQuoted c.offset c.rest = (quoted, some colonOn))
    (colon : colonOn.skipSpace.rest = .char ':' :: rest) (given : quoted.read = .ok name) :
    ∃ spelledName : SpelledName, spelledName.name = name ∧
      .char '"' :: c.rest = spelledName.chars.map Letter.char ++ rest := by
  obtain ⟨before, split⟩ := exists_gap_skipSpace colonOn
  obtain ⟨_, glyphs, same, closed, rfl⟩ := exists_quoted quote given
  cases same
  refine ⟨⟨.none, glyphs, before⟩, rfl, ?_⟩
  rw [closed, split, colon]
  simp [SpelledName.chars, SpelledName.tail, Gap.none]

namespace ReadsSpelled

variable {fuel : Nat} (spelled : ReadsSpelled fuel)

include spelled

/-- Items that are read with more fuel are spelled. -/
theorem items_succ {c : Cursor} {os : List Outline} {close : Close} {after : Option Cursor}
    {depth : Nat} {values : List Json} (read : outlineItems (fuel + 1) c = (os, close, after))
    (strict : Outline.strictItems depth os = .ok values) (ended : close.check = .ok ()) :
    ∃ left, after = some left ∧ StartsWithItems c.rest values left.rest := by
  rw [outlineItems] at read
  rcases item : outlineValue fuel c with ⟨o, _ | left⟩
  · rw [item] at read
    cases read
    obtain ⟨_, _, first, -⟩ := Outline.strictItems_cons.mp strict
    obtain ⟨_, nowhere, -⟩ := spelled.value _ _ _ _ _ item first
    cases nowhere
  have starts : ∀ {value}, o.strict depth = .ok value → StartsWith c.rest value left.rest := by
    intro value first
    obtain ⟨_, same, starts⟩ := spelled.value _ _ _ _ _ item first
    exact Option.some.inj same ▸ starts
  obtain ⟨gap, split⟩ := exists_gap_skipSpace left
  rw [item] at read
  dsimp only at read
  rcases letters : left.skipSpace.rest with _ | ⟨l, rest⟩
  · rw [letters] at read
    cases read
    cases ended
  rw [letters] at read split
  dsimp only at read
  by_cases bracket : l = .char ']'
  · rw [if_pos bracket] at read
    cases read
    obtain ⟨value, _, first, last, rfl⟩ := Outline.strictItems_cons.mp strict
    cases last
    exact ⟨_, rfl, (starts first).lastItem gap (bracket ▸ split)⟩
  rw [if_neg bracket] at read
  by_cases comma : l = .char ','
  · rw [if_pos comma] at read
    split at read
    · cases read
      cases ended
    · rcases more : outlineItems fuel (Cursor.skipSpace ⟨left.skipSpace.offset + 1, rest⟩) with
        ⟨others, closing, end_⟩
      rw [more] at read
      cases read
      obtain ⟨value, later, first, others, rfl⟩ := Outline.strictItems_cons.mp strict
      obtain ⟨end_, rfl, startsLater⟩ := spelled.items _ _ _ _ _ _ more others ended
      obtain ⟨between, skipped⟩ := exists_gap_skipSpace ⟨left.skipSpace.offset + 1, rest⟩
      have startsLater := startsLater.gap between
      rw [← skipped] at startsLater
      exact ⟨_, rfl, startsLater.cons (starts first) gap (comma ▸ split)⟩
  · rw [if_neg comma] at read
    cases read
    cases ended

/-- A list that is read with more fuel is spelled. -/
theorem list_succ {c : Cursor} {os : List Outline} {close : Close} {after : Option Cursor}
    {depth : Nat} {values : List Json} (read : outlineList (fuel + 1) c = (os, close, after))
    (strict : Outline.strictItems depth os = .ok values) (ended : close.check = .ok ()) :
    ∃ left, after = some left ∧
      StartsWith (.char '[' :: c.rest) (.list values) left.rest := by
  obtain ⟨gap, split⟩ := exists_gap_skipSpace c
  rw [outlineList] at read
  rcases letters : c.skipSpace.rest with _ | ⟨l, rest⟩
  · rw [letters] at read
    cases read
    cases ended
  rw [letters] at read
  dsimp only at read
  by_cases bracket : l = .char ']'
  · rw [if_pos bracket] at read
    cases read
    cases strict
    refine ⟨_, rfl, .list gap [], ?_, rfl⟩
    simp [split, letters, bracket, Spelling.chars, Spelling.itemsChars]
  · rw [if_neg bracket] at read
    obtain ⟨left, rfl, items, -, front, rfl⟩ := spelled.items _ _ _ _ _ _ read strict ended
    refine ⟨_, rfl, .list gap items, ?_, rfl⟩
    simp [split, front, Spelling.chars]

/-- Members that are read with more fuel are spelled. -/
theorem members_succ {c : Cursor} {os : List (Quoted × Outline)} {close : Close}
    {after : Option Cursor} {depth : Nat} {values : List (String × Json)}
    (read : outlineMembers (fuel + 1) c = (os, close, after))
    (strict : Outline.strictMembers depth os = .ok values) (ended : close.check = .ok ()) :
    ∃ left, after = some left ∧ StartsWithMembers (.char '"' :: c.rest) values left.rest := by
  cases membersRead_of_outlineMembers read ended with
  | broken =>
    obtain ⟨_, _, _, _, first, -⟩ := Outline.strictMembers_cons.mp strict
    cases first
  | unread member =>
    obtain ⟨_, _, _, _, first, -⟩ := Outline.strictMembers_cons.mp strict
    obtain ⟨_, nowhere, -⟩ := spelled.value _ _ _ _ _ member first
    cases nowhere
  | @last _ _ _ _ left _ _ _ quote colon member bracket =>
    obtain ⟨_, value, _, given, first, last, rfl⟩ := Outline.strictMembers_cons.mp strict
    cases last
    obtain ⟨name, rfl, front⟩ := spelledName_of_readQuoted quote colon given
    obtain ⟨_, same, starts⟩ := spelled.value _ _ _ _ _ member first
    cases same
    obtain ⟨gap, split⟩ := exists_gap_skipSpace left
    rw [front]
    exact ⟨_, rfl, starts.lastMember name gap (bracket ▸ split)⟩
  | @more _ _ _ _ left _ _ next _ _ _ _ quote colon member comma start later =>
    obtain ⟨_, value, _, given, first, others, rfl⟩ := Outline.strictMembers_cons.mp strict
    obtain ⟨name, rfl, front⟩ := spelledName_of_readQuoted quote colon given
    obtain ⟨_, same, starts⟩ := spelled.value _ _ _ _ _ member first
    cases same
    obtain ⟨gap, split⟩ := exists_gap_skipSpace left
    obtain ⟨end_, rfl, startsLater⟩ := spelled.members _ _ _ _ _ _ later others ended
    obtain ⟨between, skipped⟩ := exists_gap next
    have startsLater := startsLater.gap between
    rw [← start, ← skipped] at startsLater
    rw [front]
    exact ⟨_, rfl, startsLater.cons starts name gap (comma ▸ split)⟩

/-- An object that is read with more fuel is spelled. -/
theorem object_succ {c : Cursor} {os : List (Quoted × Outline)} {bare : Option Outline}
    {close : Close} {after : Option Cursor} {depth : Nat} {values : List (String × Json)}
    (read : outlineObject (fuel + 1) c = (os, bare, close, after))
    (strict : Outline.strictMembers depth os = .ok values) (ended : close.check = .ok ()) :
    ∃ left, after = some left ∧
      StartsWith (.char '\x7b' :: c.rest) (.object values) left.rest := by
  obtain ⟨gap, split⟩ := exists_gap_skipSpace c
  rw [outlineObject] at read
  dsimp only at read
  rcases letters : c.skipSpace.rest with _ | ⟨l, rest⟩
  · rw [letters] at read
    cases read
    cases ended
  rw [letters] at read split
  dsimp only at read
  by_cases bracket : l = .char '\x7d'
  · rw [if_pos bracket] at read
    cases read
    cases strict
    refine ⟨_, rfl, .object gap [], ?_, rfl⟩
    simp [split, bracket, Spelling.chars, Spelling.membersChars]
  rw [if_neg bracket] at read
  by_cases quote : l = .char '"'
  · rw [if_pos quote] at read
    rcases inner : outlineMembers fuel ⟨c.skipSpace.offset + 1, rest⟩ with ⟨others, closing, end_⟩
    rw [inner] at read
    cases read
    obtain ⟨left, rfl, members, -, front, rfl⟩ :=
      spelled.members _ _ _ _ _ _ inner strict ended
    refine ⟨_, rfl, .object gap members, ?_, rfl⟩
    rw [← quote] at front
    simp [split, front, Spelling.chars]
  · rw [if_neg quote] at read
    cases read
    cases ended

/-- A value that is read with more fuel is spelled. -/
theorem value_succ {c : Cursor} {o : Outline} {after : Option Cursor} {depth : Nat} {value : Json}
    (read : outlineValue (fuel + 1) c = (o, after)) (strict : o.strict depth = .ok value) :
    ∃ left, after = some left ∧ StartsWith c.rest value left.rest := by
  obtain ⟨gap, split⟩ := exists_gap_skipSpace c
  rw [outlineValue] at read
  dsimp only at read
  rcases letters : c.skipSpace.rest with _ | ⟨l, rest⟩
  · rw [letters] at read
    cases read
    cases strict
  rw [letters] at read split
  rw [split]
  suffices solid : ∃ left, after = some left ∧ StartsWith (l :: rest) value left.rest by
    obtain ⟨left, ends, starts⟩ := solid
    exact ⟨left, ends, starts.gap gap⟩
  dsimp only at read
  by_cases quote : l = .char '"'
  · rw [if_pos quote] at read
    rcases quoted : readQuoted (c.skipSpace.offset + 1) rest with ⟨quotedText, end_⟩
    rw [quoted] at read
    cases read
    obtain ⟨s, stands, same⟩ := bind_eq_ok.mp strict
    cases same
    obtain ⟨left, glyphs, rfl, front, rfl⟩ := exists_quoted quoted stands
    exact ⟨left, rfl, .quoted glyphs, by rw [quote, front]; rfl, rfl⟩
  rw [if_neg quote] at read
  by_cases list : l = .char '['
  · rw [if_pos list] at read
    rcases inner : outlineList fuel ⟨c.skipSpace.offset + 1, rest⟩ with ⟨items, closing, end_⟩
    rw [inner] at read
    cases read
    obtain ⟨below, values, rfl, items, ended, rfl⟩ := Outline.strict_list.mp strict
    exact list ▸ spelled.list _ _ _ _ _ _ inner items ended
  rw [if_neg list] at read
  by_cases object : l = .char '\x7b'
  · rw [if_pos object] at read
    rcases inner : outlineObject fuel ⟨c.skipSpace.offset + 1, rest⟩ with
      ⟨members, bare, closing, end_⟩
    rw [inner] at read
    cases read
    obtain ⟨below, values, rfl, members, ended, rfl⟩ := Outline.strict_object.mp strict
    exact object ▸ spelled.object _ _ _ _ _ _ _ inner members ended
  rw [if_neg object] at read
  by_cases nullWord : l = .char 'n'
  · rw [if_pos nullWord] at read
    exact nullWord ▸ startsWith_word .null rfl rfl read strict
  rw [if_neg nullWord] at read
  by_cases trueWord : l = .char 't'
  · rw [if_pos trueWord] at read
    exact trueWord ▸ startsWith_word (.bool true) rfl rfl read strict
  rw [if_neg trueWord] at read
  by_cases falseWord : l = .char 'f'
  · rw [if_pos falseWord] at read
    exact falseWord ▸ startsWith_word (.bool false) rfl rfl read strict
  rw [if_neg falseWord] at read
  by_cases minus : l = .char '-'
  · rw [if_pos minus] at read
    exact minus ▸ startsWith_number read strict
  rw [if_neg minus] at read
  split at read
  · exact startsWith_number read strict
  · cases read
    cases strict

end ReadsSpelled

/-- Whatever is read is spelled. -/
theorem readsSpelled (fuel : Nat) : ReadsSpelled fuel := by
  induction fuel with
  | zero =>
    refine ⟨?_, ?_, ?_, ?_, ?_⟩
    · intro _ _ _ _ _ read strict
      cases read
      cases strict
    all_goals
      intros
      rename_i read _ ended
      cases read
      cases ended
  | succ fuel spelled =>
    exact ⟨fun _ _ _ _ _ => spelled.value_succ, fun _ _ _ _ _ _ => spelled.list_succ,
      fun _ _ _ _ _ _ => spelled.items_succ, fun _ _ _ _ _ _ _ => spelled.object_succ,
      fun _ _ _ _ _ _ => spelled.members_succ⟩

/-! ## Whole texts -/

/-- Letters that are read as a value are a text of it. -/
theorem exists_spelling_of_ofLetters {letters : List Letter} {value : Json}
    (read : ofLetters letters = .ok value) :
    ∃ s : Spelling, letters = Letter.ofText s.chars ∧ s.value = value := by
  rcases outlined : outline letters with ⟨o, after⟩
  rw [ofLetters, readWhole, outlined] at read
  obtain ⟨_, strict, ended⟩ := bind_eq_ok.mp read
  obtain ⟨left, rfl, s, front, rfl⟩ := (readsSpelled _).value _ _ _ _ _ outlined strict
  obtain ⟨gap, split⟩ := exists_gap_skipSpace left
  dsimp only at ended
  split at ended
  · rename_i nothing
    cases ended
    refine ⟨.spaced .none s gap, ?_, rfl⟩
    rw [List.isEmpty_iff.mp nothing, List.append_nil] at split
    refine front.trans ?_
    rw [split]
    simp [Letter.ofText, Spelling.chars, Gap.none]
  · cases ended

/-- A text is read as a value just if it is one of its spellings, nesting no more than 127 levels:
the value is then the spelled one settled. -/
theorem parse_eq_ok_iff_spelling {text : String} {value : Json} :
    parse text = .ok value ↔ ∃ s : Spelling, s.toText = text ∧
      s.value.nesting ≤ Outline.maxDepth ∧ value = s.value.settled := by
  constructor
  · intro read
    obtain ⟨raw, letters, same⟩ := bind_eq_ok.mp read
    obtain ⟨s, chars, rfl⟩ := exists_spelling_of_ofLetters letters
    have text_eq : s.toText = text := by
      have same : text.toList = s.chars :=
        List.map_inj_right (fun _ _ => Letter.char.inj) |>.mp chars
      rw [Spelling.toText, ← same, String.ofList_toList]
    exact ⟨s, text_eq, (s.parse_eq_ok_iff value).mp (text_eq ▸ read)⟩
  · rintro ⟨s, rfl, shallow⟩
    exact (s.parse_eq_ok_iff value).mpr shallow

end Pipewright.Json
