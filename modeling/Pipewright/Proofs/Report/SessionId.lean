import Pipewright.Report.SessionId

/-!
# Session identifiers are read back

The text of an identifier is read as that identifier (`SessionId.parse_text`): its hyphens come out
from where they were put in (`unhyphenate_hyphenate`), its 36 characters are not the 32 of bare
digits, and it starts with a digit, neither with a brace nor with a scheme.
-/
namespace Pipewright.SessionId

/-- A digit that is written is read. -/
theorem digitOfChar_digitChar (d : Fin 16) : digitOfChar (digitChar d) = some d := by
  revert d
  decide

/-- A digit is written neither as a brace nor as the start of a scheme. -/
theorem digitChar_ne (d : Fin 16) : digitChar d ≠ '\x7b' ∧ digitChar d ≠ 'u' := by
  revert d
  decide

/-- Digits that are written are read. -/
theorem mapM_digitOfChar (digits : List (Fin 16)) :
    (digits.map digitChar).mapM digitOfChar = some digits := by
  induction digits with
  | nil => rfl
  | cons d digits ih => simp [List.mapM_cons, digitOfChar_digitChar, ih]

/-- There is one hyphen fewer than groups. -/
theorem length_hyphenate (lengths : List Nat) (cs : List Char) :
    (hyphenate lengths cs).length = cs.length + (lengths.length - 1) := by
  induction lengths generalizing cs with
  | nil => rfl
  | cons n lengths ih =>
    cases lengths with
    | nil => rfl
    | cons m lengths =>
      have later := ih (cs.drop n)
      have parts := congrArg List.length (List.take_append_drop n cs)
      simp only [List.length_append] at parts
      simp only [hyphenate, List.length_append, List.length_cons] at later ⊢
      omega

/-- The characters in the groups before the last. -/
def frontLength : List Nat → Nat
  | [] => 0
  | [_] => 0
  | n :: lengths => n + frontLength lengths

/-- Hyphens come out from where they were put in, if there are characters for all groups before the
last. -/
theorem unhyphenate_hyphenate (lengths : List Nat) (cs : List Char)
    (enough : frontLength lengths ≤ cs.length) :
    unhyphenate lengths (hyphenate lengths cs) = some cs := by
  induction lengths generalizing cs with
  | nil => rfl
  | cons n lengths ih =>
    cases lengths with
    | nil => rfl
    | cons m lengths =>
      replace enough : n + frontLength (m :: lengths) ≤ cs.length := enough
      have taken : (cs.take n).length = n := List.length_take_of_le (by omega)
      have later := ih (cs.drop n) (by rw [List.length_drop]; omega)
      rw [hyphenate, unhyphenate, List.drop_left' taken, List.take_left' taken]
      · simp [later]
      · exact List.cons_ne_nil _ _
      · exact List.cons_ne_nil _ _

/-- The digits of an identifier in groups are read. -/
theorem ofGroups_hyphenate (id : SessionId) :
    ofGroups (hyphenate groups (id.digits.map digitChar)) = some id := by
  have length : (id.digits.map digitChar).length = 32 := by
    rw [List.length_map, id.length_digits]
  have whole : (hyphenate groups (id.digits.map digitChar)).length = 36 := by
    rw [length_hyphenate, length]
    rfl
  rw [ofGroups, if_pos whole, unhyphenate_hyphenate _ _ (by rw [length]; decide)]
  rw [Option.bind_some, ofDigits, mapM_digitOfChar]
  exact dif_pos id.length_digits

/-- The text of an identifier is read as that identifier. -/
theorem parse_text (id : SessionId) : parse id.text = some id := by
  have read := ofGroups_hyphenate id
  have length : (hyphenate groups (id.digits.map digitChar)).length ≠ 32 := by
    rw [length_hyphenate, List.length_map, id.length_digits]
    decide
  obtain ⟨d, digits, split⟩ : ∃ d digits, id.digits = d :: digits :=
    List.exists_cons_of_length_pos (by rw [id.length_digits]; decide)
  obtain ⟨brace, scheme⟩ := digitChar_ne d
  rw [parse, text, String.toList_ofList, if_neg length]
  obtain ⟨more, grouped⟩ : ∃ more, hyphenate groups (id.digits.map digitChar) =
      digitChar d :: more := ⟨_, by rw [split]; rfl⟩
  rw [grouped] at read ⊢
  split
  · rename_i same
    exact absurd (List.cons.inj same).1 brace
  · rename_i same
    exact absurd (List.cons.inj same).1 scheme
  · exact read

end Pipewright.SessionId
