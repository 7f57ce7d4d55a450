import Pipewright.Proofs.Json.Parts

/-!
# Reading a spelled value

The outline of a spelling is read to its end, whatever follows it, and makes the value that is
spelled wherever this nests no deeper than allowed (`Spelling.outlined`). The recursion is that of
the spelling; fuel of twice the length of a text is enough for each of its parts.
-/
namespace Pipewright.Json

/-! ## Results in order -/

/-- A result that is made of another one is there if that is, and is made of it. -/
theorem bind_eq_ok {ε α β : Type} {x : Except ε α} {f : α → Except ε β} {b : β} :
    (x >>= f) = .ok b ↔ ∃ a, x = .ok a ∧ f a = .ok b := by
  cases x with
  | error e => simp [bind, Except.bind]
  | ok a => simp [bind, Except.bind]

namespace Outline

/-- Items are read if each of them is. -/
theorem strictItems_cons {depth : Nat} {item : Outline} {items : List Outline}
    {values : List Json} :
    strictItems depth (item :: items) = .ok values ↔
      ∃ first later, strict depth item = .ok first ∧ strictItems depth items = .ok later ∧
        values = first :: later := by
  simp only [strictItems, bind_eq_ok, Except.ok.injEq]
  grind

/-- Members are read if each of them and its name is. -/
theorem strictMembers_cons {depth : Nat} {name : Quoted} {member : Outline}
    {members : List (Quoted × Outline)} {values : List (String × Json)} :
    strictMembers depth ((name, member) :: members) = .ok values ↔
      ∃ given first later, name.read = .ok given ∧ strict depth member = .ok first ∧
        strictMembers depth members = .ok later ∧ values = (given, first) :: later := by
  simp only [strictMembers, bind_eq_ok, Except.ok.injEq]
  grind

/-- A list is read if its items and its end are, one level further down. -/
theorem strict_list {depth start : Nat} {items : List Outline} {close : Close} {value : Json} :
    strict depth (.list start items close) = .ok value ↔
      ∃ below values, depth = below + 1 ∧ strictItems below items = .ok values ∧
        close.check = .ok () ∧ value = .list values := by
  cases depth with
  | zero => simp [strict]
  | succ depth =>
    simp only [strict, bind_eq_ok, Except.ok.injEq]
    grind

/-- An object is read if its members and its end are, one level further down. -/
theorem strict_object {depth start : Nat} {members : List (Quoted × Outline)}
    {bare : Option Outline} {close : Close} {value : Json} :
    strict depth (.object start members bare close) = .ok value ↔
      ∃ below values, depth = below + 1 ∧ strictMembers below members = .ok values ∧
        close.check = .ok () ∧ value = .object values := by
  cases depth with
  | zero => simp [strict]
  | succ depth =>
    simp only [strict, bind_eq_ok, Except.ok.injEq]
    grind

end Outline

/-! ## Where a value starts -/

/-- Skipping a gap and more spaces is skipping those after it. -/
theorem skipSpace_gap (gap : Gap) (offset : Nat) (rest : List Letter) :
    Cursor.skipSpace ⟨offset, gap.chars.map Letter.char ++ rest⟩ =
      Cursor.skipSpace ⟨offset + gap.chars.length, rest⟩ := by
  have spaces : ∀ l ∈ gap.chars.map Letter.char, Cursor.isSpace l = true := by
    simpa using gap.areSpaces
  simp only [Cursor.skipSpace, List.takeWhile_append_of_pos spaces, List.length_append,
    List.length_map, Cursor.mk.injEq]
  refine ⟨by omega, ?_⟩
  rw [← List.length_map (f := Letter.char), List.drop_length_add_append]

/-- Reading a value skips the spaces before it. -/
theorem outlineValue_skipSpace (fuel : Nat) (c : Cursor) :
    outlineValue (fuel + 1) c.skipSpace = outlineValue (fuel + 1) c := by
  simp only [outlineValue, skipSpace_skipSpace]

/-- Reading a value skips the gap before it. -/
theorem outlineValue_gap (fuel : Nat) (gap : Gap) (offset : Nat) (rest : List Letter) :
    outlineValue (fuel + 1) ⟨offset, gap.chars.map Letter.char ++ rest⟩ =
      outlineValue (fuel + 1) ⟨offset + gap.chars.length, rest⟩ := by
  rw [← outlineValue_skipSpace, skipSpace_gap, outlineValue_skipSpace]

/-- Reading items skips the spaces before the first of them. -/
theorem outlineItems_skipSpace (fuel : Nat) (c : Cursor) :
    outlineItems (fuel + 2) c.skipSpace = outlineItems (fuel + 2) c := by
  rw [outlineItems, outlineItems, outlineValue_skipSpace]

/-- A letter that starts a value: none is a space or ends a list. -/
def Starts (l : Letter) : Prop := Cursor.isSpace l = false ∧ l ≠ .char ']'

/-- A digit starts a value. -/
theorem starts_digit {d : Char} (isDigit : d.isDigit = true) : Starts (.char d) := by
  refine ⟨?_, ?_⟩
  · simp only [Cursor.isSpace, Bool.or_eq_false_iff, beq_eq_false_iff_ne, ne_eq, Letter.char.injEq]
    refine ⟨⟨⟨?_, ?_⟩, ?_⟩, ?_⟩ <;> rintro rfl <;> cases isDigit
  · rintro ⟨⟩
    cases isDigit

/-- A number starts with a sign or a digit. -/
theorem SpelledNumeral.exists_start (n : SpelledNumeral) :
    ∃ c more, n.chars = c :: more ∧ Starts (.char c) := by
  obtain ⟨d, more, whole⟩ := List.exists_cons_of_ne_nil n.whole.nonempty
  cases minus : n.minus with
  | true => exact ⟨'-', n.unsigned, by simp [SpelledNumeral.chars, minus], rfl, by decide⟩
  | false =>
    refine ⟨d, more ++ n.tail, ?_, starts_digit (n.whole.areDigits d (by simp [whole]))⟩
    simp [SpelledNumeral.chars, minus, SpelledNumeral.unsigned, whole]

/-- The text of a value starts with a letter that starts one, after a gap. -/
theorem Spelling.exists_start : (s : Spelling) → (rest : List Letter) →
    ∃ l more, dropSpaces (s.chars.map Letter.char ++ rest) = l :: more ∧ Starts l
  | null, _ => ⟨_, _, dropSpaces_cons rfl, rfl, by decide⟩
  | bool true, _ => ⟨_, _, dropSpaces_cons rfl, rfl, by decide⟩
  | bool false, _ => ⟨_, _, dropSpaces_cons rfl, rfl, by decide⟩
  | number n, rest => by
    obtain ⟨c, more, first, starts⟩ := n.toSpelledNumeral.exists_start
    refine ⟨.char c, more.map Letter.char ++ rest, ?_, starts⟩
    show dropSpaces (n.chars.map Letter.char ++ rest) = _
    rw [first]
    exact dropSpaces_cons starts.1
  | quoted glyphs, _ => ⟨_, _, dropSpaces_cons rfl, rfl, by decide⟩
  | list gap items, _ => ⟨_, _, dropSpaces_cons rfl, rfl, by decide⟩
  | object gap members, _ => ⟨_, _, dropSpaces_cons rfl, rfl, by decide⟩
  | spaced before inner after, rest => by
    rw [chars, List.map_append, List.append_assoc, dropSpaces_gap, List.map_append,
      List.append_assoc]
    exact exists_start inner (after.chars.map Letter.char ++ rest)

/-! ## Values -/

/-- Whether an outline makes the value that is spelled, wherever this nests no deeper than
allowed. -/
def Makes (o : Outline) (s : Spelling) : Prop :=
  ∀ depth value, o.strict depth = .ok value ↔ s.value.nesting ≤ depth ∧ value = s.value

/-- Whether what was read is the outline of a spelled value, and the place is that of the letters
that follow it, up to spaces. -/
def Outlines (s : Spelling) (rest : List Letter) (result : Outline × Option Cursor) : Prop :=
  ∃ o c, result = (o, some c) ∧ dropSpaces c.rest = dropSpaces rest ∧ Makes o s

/-- The outline of a value without parts is read at any depth. -/
theorem outlines_of_flat {s : Spelling} {rest : List Letter} {result : Outline × Option Cursor}
    {o : Outline} {stop : Nat} (reads : result = (o, some ⟨stop, rest⟩))
    (flat : s.value.nesting = 0) (strict : ∀ depth, o.strict depth = .ok s.value) :
    Outlines s rest result := by
  refine ⟨o, ⟨stop, rest⟩, reads, rfl, fun depth value => ?_⟩
  rw [strict depth, flat, Except.ok.injEq, eq_comm]
  exact (and_iff_right (Nat.zero_le depth)).symm

/-- A value that starts with a letter that is no space is read from there. -/
theorem outlineValue_word {fuel offset : Nat} {rest : List Letter} :
    outlineValue (fuel + 1) ⟨offset, .char 'n' :: rest⟩ =
      readWord .null (offset + 1) ['u', 'l', 'l'] rest ∧
    outlineValue (fuel + 1) ⟨offset, .char 't' :: rest⟩ =
      readWord (.bool true) (offset + 1) ['r', 'u', 'e'] rest ∧
    outlineValue (fuel + 1) ⟨offset, .char 'f' :: rest⟩ =
      readWord (.bool false) (offset + 1) ['a', 'l', 's', 'e'] rest := by
  refine ⟨?_, ?_, ?_⟩ <;>
    rw [outlineValue, skipSpace_of_not_isSpace rfl] <;> simp

/-- A truth value is read. -/
theorem outlineValue_bool (b : Bool) (fuel offset : Nat) (rest : List Letter) :
    Outlines (.bool b) rest
      (outlineValue (fuel + 1) ⟨offset, (boolWord b).map Letter.char ++ rest⟩) := by
  cases b with
  | true =>
    obtain ⟨stop, reads⟩ := readWord_self (.bool true) ['r', 'u', 'e'] (offset + 1) rest
    exact outlines_of_flat (outlineValue_word.2.1.trans reads) rfl fun _ => rfl
  | false =>
    obtain ⟨stop, reads⟩ := readWord_self (.bool false) ['a', 'l', 's', 'e'] (offset + 1) rest
    exact outlines_of_flat (outlineValue_word.2.2.trans reads) rfl fun _ => rfl

/-- A number is read up to where it ends. -/
theorem outlineValue_number (n : SpelledNumber) (fuel offset : Nat) {rest : List Letter}
    (ends : EndsNumber rest) :
    Outlines (.number n) rest
      (outlineValue (fuel + 1) ⟨offset, n.chars.map Letter.char ++ rest⟩) := by
  have strict : ∀ stop depth,
      (Outline.number (n.numeral stop)).strict depth = .ok (Spelling.number n).value := by
    intro stop depth
    simp only [Outline.strict, n.value_numeral]
    rfl
  cases minus : n.minus with
  | true =>
    obtain ⟨stop, reads⟩ := readNumber_unsigned n.toSpelledNumeral (offset + 1) ends
    have signed : n.chars = '-' :: n.unsigned := by simp [SpelledNumeral.chars, minus]
    refine outlines_of_flat (Eq.trans ?_ reads) rfl (strict stop)
    rw [signed, minus, List.map_cons, List.cons_append, outlineValue, skipSpace_of_not_isSpace rfl]
    simp
  | false =>
    obtain ⟨stop, reads⟩ := readNumber_unsigned n.toSpelledNumeral offset ends
    obtain ⟨d, more, whole⟩ := List.exists_cons_of_ne_nil n.whole.nonempty
    have isDigit : d.isDigit = true := n.whole.areDigits d (by simp [whole])
    have signed : n.chars = d :: (more ++ n.tail) := by
      simp [SpelledNumeral.chars, minus, SpelledNumeral.unsigned, whole]
    have unsigned : n.unsigned = d :: (more ++ n.tail) := by
      simp [SpelledNumeral.unsigned, whole]
    -- A digit is none of the letters that start other values.
    have other : ∀ c : Char, c.isDigit = false → Letter.char d ≠ .char c := by
      rintro c none ⟨⟩
      rw [isDigit] at none
      cases none
    refine outlines_of_flat (Eq.trans ?_ reads) rfl (strict stop)
    rw [signed, unsigned, minus, List.map_cons, List.cons_append, outlineValue,
      skipSpace_of_not_isSpace (starts_digit isDigit).1]
    simp only [other '"' rfl, other '[' rfl, other '\x7b' rfl, other 'n' rfl, other 't' rfl,
      other 'f' rfl, other '-' rfl, digit?_char isDigit, if_false, Option.isSome_some, if_true]

/-- A quoted text is read. -/
theorem outlineValue_quoted (glyphs : List Glyph) (fuel offset : Nat) (rest : List Letter) :
    Outlines (.quoted glyphs) rest
      (outlineValue (fuel + 1)
        ⟨offset, ('"' :: closedChars glyphs).map Letter.char ++ rest⟩) := by
  obtain ⟨quoted, stop, reads, text⟩ := readQuoted_closed glyphs (offset + 1) rest
  have read : outlineValue (fuel + 1)
      ⟨offset, ('"' :: closedChars glyphs).map Letter.char ++ rest⟩ =
        (.text quoted, some ⟨stop, rest⟩) := by
    rw [List.map_cons, List.cons_append, outlineValue, skipSpace_of_not_isSpace rfl]
    simp [reads]
  refine outlines_of_flat read rfl fun depth => ?_
  simp only [Outline.strict, text]
  rfl

/-! ## Items -/

/-- Whether outlines make the values of the items that are spelled. -/
def MakesItems (os : List Outline) (items : List Spelling) : Prop :=
  ∀ depth values, Outline.strictItems depth os = .ok values ↔
    itemsNesting (Spelling.itemsValue items) ≤ depth ∧ values = Spelling.itemsValue items

/-- Whether what was read are the outlines of spelled items, and the place is that after the bracket
of their list. -/
def OutlinesItems (items : List Spelling) (rest : List Letter)
    (result : List Outline × Close × Option Cursor) : Prop :=
  ∃ os stop, result = (os, .closed, some ⟨stop, rest⟩) ∧ MakesItems os items

/-- No outlines make no values. -/
theorem makesItems_nil : MakesItems [] [] := by
  simp [MakesItems, Outline.strictItems, Spelling.itemsValue, itemsNesting, eq_comm]

/-- An outline and more outlines make the values of an item and more items. -/
theorem Makes.cons {o : Outline} {os : List Outline} {item : Spelling} {items : List Spelling}
    (makes : Makes o item) (later : MakesItems os items) :
    MakesItems (o :: os) (item :: items) := by
  intro depth values
  rw [Outline.strictItems_cons, Spelling.itemsValue, itemsNesting, Nat.max_le]
  constructor
  · rintro ⟨_, _, first, rest, rfl⟩
    obtain ⟨shallow, rfl⟩ := (makes _ _).mp first
    obtain ⟨shallowLater, rfl⟩ := (later _ _).mp rest
    exact ⟨⟨shallow, shallowLater⟩, rfl⟩
  · rintro ⟨⟨shallow, shallowLater⟩, rfl⟩
    exact ⟨_, _, (makes _ _).mpr ⟨shallow, rfl⟩, (later _ _).mpr ⟨shallowLater, rfl⟩, rfl⟩

/-- The letters that may follow an item or a member end a number. -/
theorem endsNumber_of_mark {c : Char} (mark : c ∈ [',', ']', '\x7d', ' ', '\n', '\t', '\r'])
    (rest : List Letter) : EndsNumber (.char c :: rest) := by
  rintro l ⟨⟩
  simp only [List.mem_cons, List.not_mem_nil, or_false] at mark
  obtain rfl | rfl | rfl | rfl | rfl | rfl | rfl := mark <;> decide

/-- A gap, or what follows it, ends a number. -/
theorem endsNumber_gap (gap : Gap) {rest : List Letter} (ends : EndsNumber rest) :
    EndsNumber (gap.chars.map Letter.char ++ rest) := by
  cases chars : gap.chars with
  | nil => exact ends
  | cons c more =>
    have space : Cursor.isSpace (.char c) = true := gap.areSpaces c (by simp [chars])
    simp only [Cursor.isSpace, Bool.or_eq_true, beq_iff_eq, Letter.char.injEq] at space
    exact endsNumber_of_mark (by grind) _

/-- The last item of a list is read with the bracket. -/
theorem outlineItems_last {item : Spelling} {fuel : Nat} {c : Cursor} {rest : List Letter}
    (reads : Outlines item (.char ']' :: rest) (outlineValue fuel c)) :
    OutlinesItems [item] rest (outlineItems (fuel + 1) c) := by
  obtain ⟨o, after, read, left, makes⟩ := reads
  have bracket : after.skipSpace.rest = .char ']' :: rest := by
    rw [skipSpace_rest, left, dropSpaces_cons rfl]
  refine ⟨[o], after.skipSpace.offset + 1, ?_, makes.cons makesItems_nil⟩
  rw [outlineItems, read]
  simp [bracket]

/-- An item of a list is read with the comma and the items after it. -/
theorem outlineItems_more {item : Spelling} {items : List Spelling} {fuel : Nat} {c : Cursor}
    {rest : List Letter} {l : Letter} {next more : List Letter}
    (reads : Outlines item (.char ',' :: next) (outlineValue (fuel + 2) c))
    (starts : dropSpaces next = l :: more) (unclosed : l ≠ .char ']')
    (later : ∀ offset, OutlinesItems items rest (outlineItems (fuel + 2) ⟨offset, next⟩)) :
    OutlinesItems (item :: items) rest (outlineItems (fuel + 3) c) := by
  obtain ⟨o, after, read, left, makes⟩ := reads
  have comma : after.skipSpace.rest = .char ',' :: next := by
    rw [skipSpace_rest, left, dropSpaces_cons rfl]
  obtain ⟨os, stop, readLater, makesLater⟩ := later (after.skipSpace.offset + 1)
  have going : (Cursor.skipSpace ⟨after.skipSpace.offset + 1, next⟩).rest.head? ≠
      some (.char ']') := by
    rw [skipSpace_rest, starts]
    exact fun bracket => unclosed (Option.some.inj bracket)
  refine ⟨o :: os, stop, ?_, makes.cons makesLater⟩
  rw [outlineItems, read]
  simp [comma, going, outlineItems_skipSpace, readLater]

/-! ## Members -/

/-- Whether outlines make the named values of the members that are spelled. -/
def MakesMembers (os : List (Quoted × Outline)) (members : List (SpelledName × Spelling)) : Prop :=
  ∀ depth values, Outline.strictMembers depth os = .ok values ↔
    membersNesting (Spelling.membersValue members) ≤ depth ∧
      values = Spelling.membersValue members

/-- Whether what was read are the outlines of spelled members, and the place is that after the
bracket of their object. -/
def OutlinesMembers (members : List (SpelledName × Spelling)) (rest : List Letter)
    (result : List (Quoted × Outline) × Close × Option Cursor) : Prop :=
  ∃ os stop, result = (os, .closed, some ⟨stop, rest⟩) ∧ MakesMembers os members

/-- No outlines make no named values. -/
theorem makesMembers_nil : MakesMembers [] [] := by
  simp [MakesMembers, Outline.strictMembers, Spelling.membersValue, membersNesting, eq_comm]

/-- A named outline and more of them make the values of a member and more members. -/
theorem Makes.consMember {quoted : Quoted} {name : SpelledName} {o : Outline}
    {os : List (Quoted × Outline)} {member : Spelling} {members : List (SpelledName × Spelling)}
    (makes : Makes o member) (named : quoted.read = .ok name.name)
    (later : MakesMembers os members) :
    MakesMembers ((quoted, o) :: os) ((name, member) :: members) := by
  intro depth values
  rw [Outline.strictMembers_cons, Spelling.membersValue, membersNesting, Nat.max_le]
  constructor
  · rintro ⟨_, _, _, given, first, rest, rfl⟩
    cases given.symm.trans named
    obtain ⟨shallow, rfl⟩ := (makes _ _).mp first
    obtain ⟨shallowLater, rfl⟩ := (later _ _).mp rest
    exact ⟨⟨shallow, shallowLater⟩, rfl⟩
  · rintro ⟨⟨shallow, shallowLater⟩, rfl⟩
    exact ⟨_, _, _, named, (makes _ _).mpr ⟨shallow, rfl⟩, (later _ _).mpr ⟨shallowLater, rfl⟩, rfl⟩

/-- The text of a name starts with its quote, after a gap. -/
theorem dropSpaces_name (name : SpelledName) (rest : List Letter) :
    dropSpaces (name.chars.map Letter.char ++ rest) =
      .char '"' :: (name.tail.map Letter.char ++ rest) := by
  rw [SpelledName.chars, List.map_append, List.append_assoc, dropSpaces_gap, List.map_cons,
    List.cons_append]
  exact dropSpaces_cons rfl

/-- A name is read up to its colon. -/
theorem readQuoted_name (name : SpelledName) (offset : Nat) (rest : List Letter) :
    ∃ quoted c, readQuoted offset (name.tail.map Letter.char ++ rest) = (quoted, some c) ∧
      c.skipSpace.rest = .char ':' :: rest ∧ quoted.read = .ok name.name := by
  obtain ⟨quoted, stop, reads, named⟩ := readQuoted_closed name.glyphs offset
    (name.after.chars.map Letter.char ++ .char ':' :: rest)
  refine ⟨quoted, ⟨stop, name.after.chars.map Letter.char ++ .char ':' :: rest⟩, ?_, ?_, named⟩
  · rw [← reads]
    simp [SpelledName.tail]
  · rw [skipSpace_rest, dropSpaces_gap, dropSpaces_cons rfl]

/-- The last member of an object is read with the bracket. -/
theorem outlineMembers_last {name : SpelledName} {member : Spelling} {fuel offset : Nat}
    {letters rest : List Letter}
    (reads : ∀ offset,
      Outlines member (.char '\x7d' :: rest) (outlineValue fuel ⟨offset, letters⟩)) :
    OutlinesMembers [(name, member)] rest
      (outlineMembers (fuel + 1) ⟨offset, name.tail.map Letter.char ++ letters⟩) := by
  obtain ⟨quoted, c, readName, colon, named⟩ := readQuoted_name name offset letters
  obtain ⟨o, after, read, left, makes⟩ := reads (c.skipSpace.offset + 1)
  have bracket : after.skipSpace.rest = .char '\x7d' :: rest := by
    rw [skipSpace_rest, left, dropSpaces_cons rfl]
  refine ⟨[(quoted, o)], after.skipSpace.offset + 1, ?_, makes.consMember named makesMembers_nil⟩
  rw [outlineMembers, readName]
  simp [colon, read, bracket]

/-- A member of an object is read with the comma and the members after it. -/
theorem outlineMembers_more {name : SpelledName} {member : Spelling}
    {members : List (SpelledName × Spelling)} {fuel offset : Nat}
    {letters next more rest : List Letter}
    (reads : ∀ offset, Outlines member (.char ',' :: next) (outlineValue fuel ⟨offset, letters⟩))
    (starts : dropSpaces next = .char '"' :: more)
    (later : ∀ offset, OutlinesMembers members rest (outlineMembers fuel ⟨offset, more⟩)) :
    OutlinesMembers ((name, member) :: members) rest
      (outlineMembers (fuel + 1) ⟨offset, name.tail.map Letter.char ++ letters⟩) := by
  obtain ⟨quoted, c, readName, colon, named⟩ := readQuoted_name name offset letters
  obtain ⟨o, after, read, left, makes⟩ := reads (c.skipSpace.offset + 1)
  have comma : after.skipSpace.rest = .char ',' :: next := by
    rw [skipSpace_rest, left, dropSpaces_cons rfl]
  have quote : (Cursor.skipSpace ⟨after.skipSpace.offset + 1, next⟩).rest = .char '"' :: more := by
    rw [skipSpace_rest, starts]
  obtain ⟨os, stop, readLater, makesLater⟩ := later
    ((Cursor.skipSpace ⟨after.skipSpace.offset + 1, next⟩).offset + 1)
  refine ⟨(quoted, o) :: os, stop, ?_, makes.consMember named makesLater⟩
  rw [outlineMembers, readName]
  simp [colon, read, comma, quote, readLater]

/-! ## Lists and objects -/

/-- The text of items starts with a letter that starts a value, after a gap. -/
theorem Spelling.itemsChars_start {items : List Spelling} (nonempty : items ≠ [])
    (rest : List Letter) :
    ∃ l more, dropSpaces ((itemsChars items).map Letter.char ++ rest) = l :: more ∧ Starts l := by
  match items with
  | [item] => exact item.exists_start rest
  | item :: next :: items =>
    have start := item.exists_start
      (.char ',' :: ((itemsChars (next :: items)).map Letter.char ++ rest))
    simpa [itemsChars] using start

/-- The text of members starts with the quote of a name, after a gap. -/
theorem Spelling.membersChars_start {members : List (SpelledName × Spelling)}
    (nonempty : members ≠ []) (rest : List Letter) :
    ∃ more, dropSpaces ((membersChars members).map Letter.char ++ rest) = .char '"' :: more := by
  obtain ⟨⟨name, member⟩, members, rfl⟩ := List.exists_cons_of_ne_nil nonempty
  obtain ⟨later, split⟩ : ∃ later,
      membersChars ((name, member) :: members) = name.chars ++ later := by
    match members with
    | [] => exact ⟨member.chars, rfl⟩
    | next :: members => exact ⟨member.chars ++ ',' :: membersChars (next :: members), rfl⟩
  refine ⟨name.tail.map Letter.char ++ (later.map Letter.char ++ rest), ?_⟩
  rw [split, List.map_append, List.append_assoc, dropSpaces_name]

/-- A list makes its value if its items make theirs. -/
theorem MakesItems.list {os : List Outline} {items : List Spelling} (makes : MakesItems os items)
    (start : Nat) (gap : Gap) : Makes (.list start os .closed) (.list gap items) := by
  intro depth value
  rw [Outline.strict_list, Spelling.value, nesting]
  constructor
  · rintro ⟨below, values, rfl, strict, -, rfl⟩
    obtain ⟨shallow, rfl⟩ := (makes _ _).mp strict
    exact ⟨Nat.succ_le_succ shallow, rfl⟩
  · rintro ⟨shallow, rfl⟩
    exact ⟨depth - 1, _, by omega, (makes _ _).mpr ⟨by omega, rfl⟩, rfl, rfl⟩

/-- An object makes its value if its members make theirs. -/
theorem MakesMembers.object {os : List (Quoted × Outline)}
    {members : List (SpelledName × Spelling)} (makes : MakesMembers os members) (start : Nat)
    (gap : Gap) : Makes (.object start os none .closed) (.object gap members) := by
  intro depth value
  rw [Outline.strict_object, Spelling.value, nesting]
  constructor
  · rintro ⟨below, values, rfl, strict, -, rfl⟩
    obtain ⟨shallow, rfl⟩ := (makes _ _).mp strict
    exact ⟨Nat.succ_le_succ shallow, rfl⟩
  · rintro ⟨shallow, rfl⟩
    exact ⟨depth - 1, _, by omega, (makes _ _).mpr ⟨by omega, rfl⟩, rfl, rfl⟩

/-- A list is read if its items are. -/
theorem outlineValue_list (gap : Gap) (items : List Spelling) (fuel offset : Nat)
    (rest : List Letter)
    (reads : items ≠ [] → ∀ offset, OutlinesItems items rest (outlineItems (fuel + 2)
      ⟨offset, (Spelling.itemsChars items).map Letter.char ++ .char ']' :: rest⟩)) :
    Outlines (.list gap items) rest (outlineValue (fuel + 4)
      ⟨offset, (Spelling.list gap items).chars.map Letter.char ++ rest⟩) := by
  have opened : OutlinesItems items rest (outlineList (fuel + 3) ⟨offset + 1,
      gap.chars.map Letter.char ++
        ((Spelling.itemsChars items).map Letter.char ++ .char ']' :: rest)⟩) := by
    rw [outlineList, skipSpace_gap]
    by_cases nonempty : items = []
    · subst nonempty
      refine ⟨[], offset + 1 + gap.chars.length + 1, ?_, makesItems_nil⟩
      rw [Spelling.itemsChars, List.map_nil, List.nil_append, skipSpace_of_not_isSpace rfl]
      simp
    · obtain ⟨os, stop, read, makes⟩ := reads nonempty (offset + 1 + gap.chars.length)
      obtain ⟨l, more, start, -, unclosed⟩ :=
        Spelling.itemsChars_start nonempty (.char ']' :: rest)
      refine ⟨os, stop, ?_, makes⟩
      rw [outlineItems_skipSpace, read]
      simp [skipSpace_rest, start, unclosed]
  obtain ⟨os, stop, read, makes⟩ := opened
  have letters : (Spelling.list gap items).chars.map Letter.char ++ rest = .char '[' ::
      (gap.chars.map Letter.char ++
        ((Spelling.itemsChars items).map Letter.char ++ .char ']' :: rest)) := by
    simp [Spelling.chars]
  refine ⟨.list offset os .closed, ⟨stop, rest⟩, ?_, rfl, makes.list offset gap⟩
  rw [letters, outlineValue, skipSpace_of_not_isSpace rfl]
  simp [read]

/-- An object is read if its members are. -/
theorem outlineValue_object (gap : Gap) (members : List (SpelledName × Spelling))
    (fuel offset : Nat) (rest : List Letter)
    (reads : ∀ offset more, dropSpaces ((Spelling.membersChars members).map Letter.char ++
      .char '\x7d' :: rest) = .char '"' :: more →
        OutlinesMembers members rest (outlineMembers fuel ⟨offset, more⟩)) :
    Outlines (.object gap members) rest (outlineValue (fuel + 2)
      ⟨offset, (Spelling.object gap members).chars.map Letter.char ++ rest⟩) := by
  have opened : ∃ os stop, outlineObject (fuel + 1) ⟨offset + 1, gap.chars.map Letter.char ++
      ((Spelling.membersChars members).map Letter.char ++ .char '\x7d' :: rest)⟩ =
        (os, none, .closed, some ⟨stop, rest⟩) ∧ MakesMembers os members := by
    rw [outlineObject, skipSpace_gap]
    by_cases nonempty : members = []
    · subst nonempty
      refine ⟨[], offset + 1 + gap.chars.length + 1, ?_, makesMembers_nil⟩
      rw [Spelling.membersChars, List.map_nil, List.nil_append, skipSpace_of_not_isSpace rfl]
      simp
    · obtain ⟨more, quote⟩ := Spelling.membersChars_start nonempty (.char '\x7d' :: rest)
      have first := (skipSpace_rest ⟨offset + 1 + gap.chars.length,
        (Spelling.membersChars members).map Letter.char ++ .char '\x7d' :: rest⟩).trans quote
      generalize Cursor.skipSpace _ = c at first
      obtain ⟨os, stop, read, makes⟩ := reads (c.offset + 1) more quote
      refine ⟨os, stop, ?_, makes⟩
      simp [first, read]
  obtain ⟨os, stop, read, makes⟩ := opened
  have letters : (Spelling.object gap members).chars.map Letter.char ++ rest = .char '\x7b' ::
      (gap.chars.map Letter.char ++
        ((Spelling.membersChars members).map Letter.char ++ .char '\x7d' :: rest)) := by
    simp [Spelling.chars]
  refine ⟨.object offset os none .closed, ⟨stop, rest⟩, ?_, rfl, makes.object offset gap⟩
  rw [letters, outlineValue, skipSpace_of_not_isSpace rfl]
  simp [read]

/-! ## Spellings -/

/-- The text of a value is not empty. -/
theorem Spelling.chars_length_pos (s : Spelling) : 0 < s.chars.length := by
  obtain ⟨l, more, start, -⟩ := s.exists_start []
  refine List.length_pos_iff.mpr fun empty => ?_
  rw [empty] at start
  cases start

mutual

/-- The outline of a spelling is read, whatever follows it that ends a number. -/
theorem Spelling.outlined : (s : Spelling) → (fuel offset : Nat) → (rest : List Letter) →
    2 * s.chars.length ≤ fuel → EndsNumber rest →
      Outlines s rest (outlineValue fuel ⟨offset, s.chars.map Letter.char ++ rest⟩)
  | .null, fuel, offset, rest, enough, _ => by
    obtain ⟨fuel, rfl⟩ : ∃ more, fuel = more + 1 :=
      ⟨fuel - 1, by have positive := Spelling.null.chars_length_pos; omega⟩
    obtain ⟨stop, reads⟩ := readWord_self .null ['u', 'l', 'l'] (offset + 1) rest
    exact outlines_of_flat (outlineValue_word.1.trans reads) rfl fun _ => rfl
  | .bool b, fuel, offset, rest, enough, _ => by
    obtain ⟨fuel, rfl⟩ : ∃ more, fuel = more + 1 :=
      ⟨fuel - 1, by have positive := (Spelling.bool b).chars_length_pos; omega⟩
    exact outlineValue_bool b fuel offset rest
  | .number n, fuel, offset, rest, enough, ends => by
    obtain ⟨fuel, rfl⟩ : ∃ more, fuel = more + 1 :=
      ⟨fuel - 1, by have positive := (Spelling.number n).chars_length_pos; omega⟩
    exact outlineValue_number n fuel offset ends
  | .quoted glyphs, fuel, offset, rest, enough, _ => by
    obtain ⟨fuel, rfl⟩ : ∃ more, fuel = more + 1 :=
      ⟨fuel - 1, by have positive := (Spelling.quoted glyphs).chars_length_pos; omega⟩
    exact outlineValue_quoted glyphs fuel offset rest
  | .list gap items, fuel, offset, rest, enough, _ => by
    simp only [chars, List.length_cons, List.length_append, List.length_nil] at enough
    obtain ⟨fuel, rfl⟩ : ∃ more, fuel = more + 4 := ⟨fuel - 4, by omega⟩
    exact outlineValue_list gap items fuel offset rest fun nonempty offset =>
      itemsOutlined items (fuel + 2) offset rest nonempty (by omega)
  | .object gap members, fuel, offset, rest, enough, _ => by
    simp only [chars, List.length_cons, List.length_append, List.length_nil] at enough
    obtain ⟨fuel, rfl⟩ : ∃ more, fuel = more + 2 := ⟨fuel - 2, by omega⟩
    exact outlineValue_object gap members fuel offset rest fun offset more quote =>
      membersOutlined members fuel offset more rest (by omega) quote
  | .spaced before inner after, fuel, offset, rest, enough, ends => by
    simp only [chars, List.length_append] at enough
    have positive := inner.chars_length_pos
    obtain ⟨fuel, rfl⟩ : ∃ more, fuel = more + 1 := ⟨fuel - 1, by omega⟩
    obtain ⟨o, c, read, left, makes⟩ := outlined inner (fuel + 1) (offset + before.chars.length)
      (after.chars.map Letter.char ++ rest) (by omega) (endsNumber_gap after ends)
    refine ⟨o, c, ?_, left.trans (dropSpaces_gap after rest), makes⟩
    rw [← read, ← outlineValue_gap]
    simp [chars]

/-- The outlines of spelled items are read up to their bracket. -/
theorem Spelling.itemsOutlined : (items : List Spelling) → (fuel offset : Nat) →
    (rest : List Letter) → items ≠ [] →
    2 * (Spelling.itemsChars items).length + 1 ≤ fuel →
      OutlinesItems items rest (outlineItems fuel
        ⟨offset, (Spelling.itemsChars items).map Letter.char ++ .char ']' :: rest⟩)
  | [], _, _, _, nonempty, _ => absurd rfl nonempty
  | [item], fuel, offset, rest, _, enough => by
    rw [itemsChars] at enough ⊢
    obtain ⟨fuel, rfl⟩ : ∃ more, fuel = more + 1 := ⟨fuel - 1, by omega⟩
    exact outlineItems_last (outlined item fuel offset _ (by omega)
      (endsNumber_of_mark (by decide) rest))
  | item :: next :: items, fuel, offset, rest, _, enough => by
    simp only [itemsChars, List.length_append, List.length_cons] at enough
    obtain ⟨fuel, rfl⟩ : ∃ more, fuel = more + 3 := ⟨fuel - 3, by omega⟩
    obtain ⟨l, more, start, -, unclosed⟩ :=
      itemsChars_start (List.cons_ne_nil next items) (.char ']' :: rest)
    have letters : (itemsChars (item :: next :: items)).map Letter.char ++ .char ']' :: rest =
        item.chars.map Letter.char ++ .char ',' ::
          ((itemsChars (next :: items)).map Letter.char ++ .char ']' :: rest) := by
      simp [itemsChars]
    rw [letters]
    exact outlineItems_more
      (outlined item (fuel + 2) offset _ (by omega) (endsNumber_of_mark (by decide) _))
      start unclosed fun offset =>
        itemsOutlined (next :: items) (fuel + 2) offset rest (List.cons_ne_nil _ _) (by omega)

/-- The outlines of spelled members are read from the first name on up to their bracket. -/
theorem Spelling.membersOutlined : (members : List (SpelledName × Spelling)) →
    (fuel offset : Nat) → (more rest : List Letter) →
    2 * (Spelling.membersChars members).length + 1 ≤ fuel →
    dropSpaces ((Spelling.membersChars members).map Letter.char ++ .char '\x7d' :: rest) =
      .char '"' :: more →
    OutlinesMembers members rest (outlineMembers fuel ⟨offset, more⟩)
  | [], _, _, _, _, _, quote => by cases quote
  | [(name, member)], fuel, offset, more, rest, enough, quote => by
    simp only [membersChars, List.length_append] at enough
    obtain ⟨fuel, rfl⟩ : ∃ more, fuel = more + 1 := ⟨fuel - 1, by omega⟩
    rw [membersChars, List.map_append, List.append_assoc, dropSpaces_name] at quote
    obtain ⟨-, rfl⟩ := List.cons.inj quote
    exact outlineMembers_last fun offset =>
      outlined member fuel offset _ (by omega) (endsNumber_of_mark (by decide) rest)
  | (name, member) :: next :: members, fuel, offset, more, rest, enough, quote => by
    simp only [membersChars, List.length_append, List.length_cons] at enough
    obtain ⟨fuel, rfl⟩ : ∃ more, fuel = more + 1 := ⟨fuel - 1, by omega⟩
    obtain ⟨later, start⟩ :=
      membersChars_start (List.cons_ne_nil next members) (.char '\x7d' :: rest)
    have letters : (membersChars ((name, member) :: next :: members)).map Letter.char ++
        .char '\x7d' :: rest = name.chars.map Letter.char ++ (member.chars.map Letter.char ++
          .char ',' :: ((membersChars (next :: members)).map Letter.char ++
            .char '\x7d' :: rest)) := by
      simp [membersChars]
    rw [letters, dropSpaces_name] at quote
    obtain ⟨-, rfl⟩ := List.cons.inj quote
    exact outlineMembers_more
      (fun offset => outlined member fuel offset _ (by omega) (endsNumber_of_mark (by decide) _))
      start fun offset =>
        membersOutlined (next :: members) fuel offset later rest (by omega) start

end

/-! ## Whole texts -/

/-- A spelling is read as the value that it spells, unless this nests too deeply. -/
theorem Spelling.ofLetters_eq_ok_iff (s : Spelling) (value : Json) :
    ofLetters (Letter.ofText s.chars) = .ok value ↔
      s.value.nesting ≤ Outline.maxDepth ∧ value = s.value := by
  have nothing : EndsNumber [] := by simp [EndsNumber]
  obtain ⟨o, c, read, left, makes⟩ := s.outlined (2 * (Letter.ofText s.chars).length + 2) 0 []
    (by simp [Letter.ofText]) nothing
  rw [List.append_nil] at read
  change outlineValue _ ⟨0, Letter.ofText s.chars⟩ = _ at read
  have ended : c.skipSpace.rest = [] := by
    rw [skipSpace_rest, left]
    rfl
  rw [← makes, ofLetters, readWhole, outline, read]
  simp [bind_eq_ok, ended]

/-- The text of a value is read as this value settled, unless it nests too deeply. -/
theorem Spelling.parse_eq_ok_iff (s : Spelling) (value : Json) :
    parse s.toText = .ok value ↔
      s.value.nesting ≤ Outline.maxDepth ∧ value = s.value.settled := by
  simp only [parse, toText, String.toList_ofList, bind_eq_ok, s.ofLetters_eq_ok_iff,
    Except.ok.injEq]
  grind

end Pipewright.Json
