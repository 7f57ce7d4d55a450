import Pipewright.Workflow.Scalar

/-!
# Scalars delimit themselves

Where a scalar, a quoted text or a list of scalars ends can be told from its characters, so the text
is determined by what is written, whatever comes after it (`quoted_append_inj`,
`flow_append_inj`), or, for a bare scalar, whatever comes after that it may not go on with
(`scalar_append_inj`). None of them holds a line end or starts with a space.
-/
namespace Pipewright

/-- Where elements with a property end can be told from what follows them, as long as that does not
start with another one. -/
theorem run_append_inj {α : Type} {p : α → Prop} {run run' rest rest' : List α}
    (holds : ∀ x ∈ run, p x) (holds' : ∀ x ∈ run', p x) (ends : ∀ x ∈ rest.head?, ¬p x)
    (ends' : ∀ x ∈ rest'.head?, ¬p x) (same : run ++ rest = run' ++ rest') :
    run = run' ∧ rest = rest' := by
  induction run generalizing run' with
  | nil =>
    cases run' with
    | nil => exact ⟨rfl, same⟩
    | cons x run' =>
      rw [List.nil_append] at same
      exact absurd (holds' x List.mem_cons_self) (ends x (by rw [same]; rfl))
  | cons x run ih =>
    cases run' with
    | nil =>
      rw [List.nil_append] at same
      exact absurd (holds x List.mem_cons_self) (ends' x (by rw [← same]; rfl))
    | cons y run' =>
      rw [List.cons_append, List.cons_append, List.cons.injEq] at same
      obtain ⟨rfl, same⟩ := same
      have tails := ih (fun z member => holds z (List.mem_cons_of_mem _ member))
        (fun z member => holds' z (List.mem_cons_of_mem _ member)) same
      exact ⟨congrArg _ tails.1, tails.2⟩

namespace Scalar

variable {text text' : String} {items items' : List String} {rest rest' : List Char}

/-! ## Quoted texts -/

/-- The value of a hexadecimal digit in lower case. -/
def hexValue (c : Char) : Nat := if c.toNat < 97 then c.toNat - 48 else c.toNat - 87

/-- A digit has the value for which it was written. -/
theorem hexValue_hexDigit : ∀ n < 16, hexValue (hexDigit n) = n := by decide

/-- The character that a letter after a backslash stands for. -/
def unescape (mark : Char) : Char :=
  if mark = 'n' then '\n' else if mark = 'r' then '\r' else if mark = 't' then '\t' else mark

/-- The character that is written after a backslash, with what remains after it. -/
def readMarked : List Char → Option (Char × List Char)
  | [] => none
  | 'u' :: _ :: _ :: high :: low :: rest =>
    some (Char.ofNat (16 * hexValue high + hexValue low), rest)
  | mark :: rest => some (unescape mark, rest)

/-- The character that starts an escaped text, with what remains after it. -/
def readEscaped : List Char → Option (Char × List Char)
  | [] => none
  | c :: rest => if c = '\\' then readMarked rest else some (c, rest)

/-- A control character is written with two digits. -/
theorem toNat_lt_of_isControl {c : Char} (control : isControl c = true) : c.toNat < 256 := by
  simp only [isControl, Bool.or_eq_true, Bool.and_eq_true, decide_eq_true_eq] at control
  omega

/-- An escaped character is read back, whatever follows it. -/
theorem readEscaped_escape (c : Char) : readEscaped (escape c ++ rest) = some (c, rest) := by
  unfold escape
  by_cases quote : c = '"'
  · subst quote; rfl
  by_cases slash : c = '\\'
  · subst slash; rfl
  by_cases lineEnd : c = '\n'
  · subst lineEnd; rfl
  by_cases carriageReturn : c = '\r'
  · subst carriageReturn; rfl
  by_cases tab : c = '\t'
  · subst tab; rfl
  rw [if_neg quote, if_neg slash, if_neg lineEnd, if_neg carriageReturn, if_neg tab]
  by_cases control : isControl c = true
  · have small := toNat_lt_of_isControl control
    have value : 16 * hexValue (hexDigit (c.toNat / 16)) + hexValue (hexDigit (c.toNat % 16)) =
        c.toNat := by
      rw [hexValue_hexDigit _ (by omega), hexValue_hexDigit _ (by omega)]
      omega
    rw [if_pos control]
    simp [readEscaped, readMarked, value]
  · rw [if_neg control]
    simp [readEscaped, slash]

/-- What follows an escaped character and the character itself can be told from what is written. -/
theorem escape_append_inj {c c' : Char} (same : escape c ++ rest = escape c' ++ rest') :
    c = c' ∧ rest = rest' := by
  have read := congrArg readEscaped same
  rw [readEscaped_escape, readEscaped_escape, Option.some.injEq, Prod.mk.injEq] at read
  exact read

/-- An escaped character does not start with a quote. -/
theorem escape_append_ne_quote {c : Char} : escape c ++ rest ≠ '"' :: rest' := by
  intro same
  have read := congrArg readEscaped same
  rw [readEscaped_escape, readEscaped, if_neg (by decide), Option.some.injEq, Prod.mk.injEq] at read
  obtain ⟨rfl, rfl⟩ := read
  have longer := congrArg List.length same
  simp [escape] at longer

/-- What is between quotes ends with the first quote that is not escaped. -/
theorem escaped_append_inj {cs cs' : List Char}
    (same : cs.flatMap escape ++ '"' :: rest = cs'.flatMap escape ++ '"' :: rest') :
    cs = cs' ∧ rest = rest' := by
  induction cs generalizing cs' with
  | nil =>
    cases cs' with
    | nil => exact ⟨rfl, (List.cons.inj same).2⟩
    | cons c cs' =>
      rw [List.flatMap_cons, List.append_assoc] at same
      exact absurd same.symm escape_append_ne_quote
  | cons c cs ih =>
    rw [List.flatMap_cons, List.append_assoc] at same
    cases cs' with
    | nil => exact absurd same escape_append_ne_quote
    | cons c' cs' =>
      rw [List.flatMap_cons, List.append_assoc] at same
      obtain ⟨rfl, tails⟩ := escape_append_inj same
      obtain ⟨rfl, ends⟩ := ih tails
      exact ⟨rfl, ends⟩

/-- A quoted text and what follows it can be told from what is written. -/
theorem quoted_append_inj (same : quoted text ++ rest = quoted text' ++ rest') :
    text = text' ∧ rest = rest' := by
  unfold quoted at same
  rw [List.cons_append, List.cons_append, List.append_assoc, List.append_assoc] at same
  obtain ⟨characters, ends⟩ := escaped_append_inj (List.cons.inj same).2
  exact ⟨String.toList_inj.mp characters, ends⟩

/-! ## Bare scalars -/

/-- A bare scalar may go on with whatever it may start with. -/
theorem mayFollow_of_mayStart {c : Char} (starts : mayStart c = true) : mayFollow c = true := by
  unfold mayStart at starts
  rw [Bool.or_eq_true] at starts
  rcases starts with letter | underscore
  · simp [mayFollow, letter]
  · simp [mayFollow, underscore]

/-- A bare scalar starts with a character with which it may. -/
theorem exists_of_isPlain (plain : isPlain text = true) :
    ∃ c cs, text.toList = c :: cs ∧ mayStart c = true ∧ cs.all mayFollow = true := by
  unfold isPlain at plain
  split at plain
  · cases plain
  · next c cs characters =>
    simp only [Bool.and_eq_true] at plain
    exact ⟨c, cs, characters, plain.1.1.1, plain.1.1.2⟩

/-- A bare scalar has only characters with which it may go on. -/
theorem mayFollow_of_isPlain (plain : isPlain text = true) :
    ∀ c ∈ text.toList, mayFollow c = true := by
  obtain ⟨first, cs, characters, starts, follow⟩ := exists_of_isPlain plain
  intro c member
  rw [characters] at member
  rcases List.mem_cons.mp member with rfl | later
  · exact mayFollow_of_mayStart starts
  · exact List.all_eq_true.mp follow c later

/-- A bare scalar is not written as a quoted one. -/
theorem bare_append_ne_quoted (plain : isPlain text = true) :
    text.toList ++ rest ≠ quoted text' ++ rest' := by
  obtain ⟨first, cs, characters, starts, -⟩ := exists_of_isPlain plain
  intro same
  rw [characters, quoted, List.cons_append, List.cons_append, List.cons.injEq] at same
  rw [same.1] at starts
  exact absurd starts (by decide)

/-- A scalar and what follows it can be told from what is written, if a bare scalar may not go on
with that. -/
theorem scalar_append_inj (ends : ∀ c ∈ rest.head?, ¬mayFollow c = true)
    (ends' : ∀ c ∈ rest'.head?, ¬mayFollow c = true)
    (same : scalar text ++ rest = scalar text' ++ rest') : text = text' ∧ rest = rest' := by
  unfold scalar at same
  by_cases plain : isPlain text = true
  · rw [if_pos plain] at same
    by_cases plain' : isPlain text' = true
    · rw [if_pos plain'] at same
      obtain ⟨characters, tails⟩ := run_append_inj (mayFollow_of_isPlain plain)
        (mayFollow_of_isPlain plain') ends ends' same
      exact ⟨String.toList_inj.mp characters, tails⟩
    · rw [if_neg plain'] at same
      exact absurd same (bare_append_ne_quoted plain)
  · rw [if_neg plain] at same
    by_cases plain' : isPlain text' = true
    · rw [if_pos plain'] at same
      exact absurd same.symm (bare_append_ne_quoted plain')
    · rw [if_neg plain'] at same
      exact quoted_append_inj same

/-- The first character of a scalar is a quote or one with which a bare scalar may start. -/
theorem exists_scalar_eq (text : String) :
    ∃ c cs, scalar text = c :: cs ∧ (c = '"' ∨ mayStart c = true) := by
  unfold scalar
  by_cases plain : isPlain text = true
  · obtain ⟨c, cs, characters, starts, -⟩ := exists_of_isPlain plain
    exact ⟨c, cs, by rw [if_pos plain, characters], .inr starts⟩
  · exact ⟨'"', _, by rw [if_neg plain, quoted], .inl rfl⟩

/-! ## Lists -/

/-- What is written after an item of a list: the bracket, or a comma and the items that remain. -/
def afterItem (rest : List Char) : List String → List Char
  | [] => ']' :: rest
  | item :: items => ',' :: ' ' :: (separated (item :: items) ++ ']' :: rest)

/-- Scalars with commas between them start with the first one. -/
theorem separated_cons_append (item : String) :
    separated (item :: items) ++ ']' :: rest = scalar item ++ afterItem rest items := by
  cases items with
  | nil => rfl
  | cons next items =>
    rw [separated, List.append_assoc]
    · rfl
    · exact nofun

/-- A bare scalar may not go on with what is written after an item. -/
theorem afterItem_ends : ∀ c ∈ (afterItem rest items).head?, ¬mayFollow c = true := by
  intro c head
  cases items with
  | nil =>
    cases head
    decide
  | cons item items =>
    cases head
    decide

/-- A scalar does not start with a bracket. -/
theorem scalar_append_ne_bracket : scalar text ++ rest ≠ ']' :: rest' := by
  obtain ⟨c, cs, characters, starts⟩ := exists_scalar_eq text
  intro same
  rw [characters, List.cons_append, List.cons.injEq] at same
  rw [same.1] at starts
  exact absurd starts (by decide)

/-- Scalars with commas between them end with the bracket after them. -/
theorem separated_append_inj
    (same : separated items ++ ']' :: rest = separated items' ++ ']' :: rest') :
    items = items' ∧ rest = rest' := by
  induction items generalizing items' with
  | nil =>
    cases items' with
    | nil => exact ⟨rfl, (List.cons.inj same).2⟩
    | cons item' items' =>
      rw [separated_cons_append] at same
      exact absurd same.symm scalar_append_ne_bracket
  | cons item items ih =>
    rw [separated_cons_append] at same
    cases items' with
    | nil => exact absurd same scalar_append_ne_bracket
    | cons item' items' =>
      rw [separated_cons_append] at same
      obtain ⟨rfl, tails⟩ := scalar_append_inj afterItem_ends afterItem_ends same
      cases items with
      | nil =>
        cases items' with
        | nil => exact ⟨rfl, (List.cons.inj tails).2⟩
        | cons next' items' => exact absurd (List.cons.inj tails).1 (by decide)
      | cons next items =>
        cases items' with
        | nil => exact absurd (List.cons.inj tails).1 (by decide)
        | cons next' items' =>
          obtain ⟨others, ends⟩ := ih (List.cons.inj (List.cons.inj tails).2).2
          exact ⟨congrArg _ others, ends⟩

/-- A list of scalars and what follows it can be told from what is written. -/
theorem flow_append_inj (same : flow items ++ rest = flow items' ++ rest') :
    items = items' ∧ rest = rest' := by
  unfold flow at same
  rw [List.cons_append, List.cons_append, List.append_assoc, List.append_assoc] at same
  exact separated_append_inj (List.cons.inj same).2

/-! ## One line each -/

/-- A hexadecimal digit is no line end. -/
theorem hexDigit_ne_lineEnd : ∀ n < 16, hexDigit n ≠ '\n' := by decide

/-- An escaped character holds no line end. -/
theorem ne_lineEnd_of_mem_escape {c d : Char} (member : d ∈ escape c) : d ≠ '\n' := by
  rintro rfl
  unfold escape at member
  by_cases quote : c = '"'
  · simp [quote] at member
  by_cases slash : c = '\\'
  · simp [slash] at member
  by_cases lineEnd : c = '\n'
  · simp [lineEnd] at member
  by_cases carriageReturn : c = '\r'
  · simp [carriageReturn] at member
  by_cases tab : c = '\t'
  · simp [tab] at member
  rw [if_neg quote, if_neg slash, if_neg lineEnd, if_neg carriageReturn, if_neg tab] at member
  by_cases control : isControl c = true
  · have small := toNat_lt_of_isControl control
    have high := hexDigit_ne_lineEnd (c.toNat / 16) (by omega)
    have low := hexDigit_ne_lineEnd (c.toNat % 16) (by omega)
    simp [control, Ne.symm high, Ne.symm low] at member
  · rw [if_neg control, List.mem_singleton] at member
    exact lineEnd member.symm

/-- A quoted text holds no line end. -/
theorem ne_lineEnd_of_mem_quoted {c : Char} (member : c ∈ quoted text) : c ≠ '\n' := by
  unfold quoted at member
  rcases List.mem_cons.mp member with rfl | later
  · decide
  · rcases List.mem_append.mp later with inside | close
    · obtain ⟨d, -, escaped⟩ := List.mem_flatMap.mp inside
      exact ne_lineEnd_of_mem_escape escaped
    · rw [List.mem_singleton.mp close]
      decide

/-- A scalar holds no line end. -/
theorem ne_lineEnd_of_mem_scalar {c : Char} (member : c ∈ scalar text) : c ≠ '\n' := by
  unfold scalar at member
  by_cases plain : isPlain text = true
  · rw [if_pos plain] at member
    have follows := mayFollow_of_isPlain plain c member
    rintro rfl
    exact absurd follows (by decide)
  · rw [if_neg plain] at member
    exact ne_lineEnd_of_mem_quoted member

/-- Scalars with commas between them hold no line end. -/
theorem ne_lineEnd_of_mem_separated {c : Char} (member : c ∈ separated items) : c ≠ '\n' := by
  induction items with
  | nil => cases member
  | cons item items ih =>
    cases items with
    | nil => exact ne_lineEnd_of_mem_scalar member
    | cons next items =>
      rw [separated] at member
      · rcases List.mem_append.mp member with first | later
        · exact ne_lineEnd_of_mem_scalar first
        · rcases List.mem_cons.mp later with rfl | later
          · decide
          · rcases List.mem_cons.mp later with rfl | later
            · decide
            · exact ih later
      · exact nofun

/-- A list of scalars holds no line end. -/
theorem ne_lineEnd_of_mem_flow {c : Char} (member : c ∈ flow items) : c ≠ '\n' := by
  unfold flow at member
  rcases List.mem_cons.mp member with rfl | later
  · decide
  · rcases List.mem_append.mp later with inside | close
    · exact ne_lineEnd_of_mem_separated inside
    · rw [List.mem_singleton.mp close]
      decide

end Scalar

end Pipewright
