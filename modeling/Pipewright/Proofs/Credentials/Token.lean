import Mathlib.Tactic.SplitIfs
import Pipewright.Credentials

/-!
# Which tokens pass

A token passes when it has from 40 to 255 characters and is of one of two forms: letters and digits
only, or a mark and then letters, digits and underscores. The check counts the characters of a
marked token after its mark and those of any other from its beginning, and it looks for too many
before it looks for too few. All of this comes to one count of the whole token (`checkToken_eq`),
so every token has the one result that its length and its form give it (`checkToken_classifies`).
-/
namespace Pipewright

/-! ## Forms -/

/-- Whether a token is of the classic form: letters and digits of ASCII. -/
def IsClassicToken (token : String) : Prop := ∀ c ∈ token.toList, c.isAlphanum = true

/-- Whether a token is of the newer form: a mark, and then letters and digits of ASCII and
underscores. -/
def IsMarkedToken (token : String) : Prop :=
  ∃ mark body : String, (mark = "ghp_" ∨ mark = "ghs_") ∧ token = mark ++ body ∧
    ∀ c ∈ body.toList, c.isAlphanum = true ∨ c = '_'

/-- Whether characters are those of a token, by the form that their beginning gives them. -/
def hasTokenForm (cs : List Char) : Bool :=
  match markedBody? cs with
  | some body => body.all fun c => isWordChar c || c == '_'
  | none => cs.all isWordChar

/-- Letters and digits are those that core has for ASCII. -/
theorem isWordChar_eq_isAlphanum (c : Char) : isWordChar c = c.isAlphanum := by
  have upper : c.isUpper = ('A' ≤ c && c ≤ 'Z') := Bool.decide_and _ _
  have lower : c.isLower = ('a' ≤ c && c ≤ 'z') := rfl
  have digit : c.isDigit = ('0' ≤ c && c ≤ '9') := rfl
  have either : c.isAlphanum = (c.isUpper || c.isLower || c.isDigit) := rfl
  rw [either, upper, lower, digit, Bool.or_comm ('A' ≤ c && c ≤ 'Z')]
  rfl

/-- Characters have a mark when they begin with one of the two, and what follows it is the body. -/
theorem markedBody?_eq_some_iff {cs body : List Char} :
    markedBody? cs = some body ↔ cs = "ghp_".toList ++ body ∨ cs = "ghs_".toList ++ body := by
  constructor
  · intro marked
    unfold markedBody? at marked
    split at marked
    · cases marked
      exact .inl rfl
    · cases marked
      exact .inr rfl
    · cases marked
  · rintro (rfl | rfl)
    · rfl
    · rfl

/-- The body of a marked token is shorter by the mark. -/
theorem length_of_markedBody? {cs body : List Char} (marked : markedBody? cs = some body) :
    cs.length = body.length + 4 := by
  rcases markedBody?_eq_some_iff.mp marked with rfl | rfl
  · rw [List.length_append, Nat.add_comm]
    rfl
  · rw [List.length_append, Nat.add_comm]
    rfl

/-- The underscore of a mark is neither a letter nor a digit. -/
theorem not_isClassicToken_of_mark {token : String} {body : List Char}
    (marked : markedBody? token.toList = some body) : ¬IsClassicToken token := by
  intro classic
  have mark : '_' ∈ token.toList := by
    rcases markedBody?_eq_some_iff.mp marked with split | split
    · rw [split]
      exact List.mem_append_left body (by decide)
    · rw [split]
      exact List.mem_append_left body (by decide)
  exact absurd (classic '_' mark) (by decide)

/-- A token with a mark has the newer form when its body has. -/
theorem isMarkedToken_iff_of_mark {token : String} {body : List Char}
    (marked : markedBody? token.toList = some body) :
    IsMarkedToken token ↔ ∀ c ∈ body, c.isAlphanum = true ∨ c = '_' := by
  constructor
  · rintro ⟨mark, rest, isMark, rfl, formed⟩
    have same : markedBody? (mark ++ rest).toList = some rest.toList := by
      rw [String.toList_append, markedBody?_eq_some_iff]
      rcases isMark with rfl | rfl
      · exact .inl rfl
      · exact .inr rfl
    rw [marked, Option.some.injEq] at same
    rw [same]
    exact formed
  · intro formed
    rcases markedBody?_eq_some_iff.mp marked with split | split
    · exact ⟨"ghp_", .ofList body, .inl rfl, by simp [← String.toList_inj, split], by simpa⟩
    · exact ⟨"ghs_", .ofList body, .inr rfl, by simp [← String.toList_inj, split], by simpa⟩

/-- A token of the newer form has a mark. -/
theorem IsMarkedToken.exists_body {token : String} (isMarked : IsMarkedToken token) :
    ∃ body, markedBody? token.toList = some body := by
  obtain ⟨mark, rest, rfl | rfl, rfl, -⟩ := isMarked
  · exact ⟨rest.toList, markedBody?_eq_some_iff.mpr (.inl String.toList_append)⟩
  · exact ⟨rest.toList, markedBody?_eq_some_iff.mpr (.inr String.toList_append)⟩

/-- The beginning of a token decides which of the two forms it may have. -/
theorem hasTokenForm_iff (token : String) :
    hasTokenForm token.toList = true ↔ IsClassicToken token ∨ IsMarkedToken token := by
  unfold hasTokenForm
  cases marked : markedBody? token.toList with
  | some body =>
    rw [or_iff_right (not_isClassicToken_of_mark marked), isMarkedToken_iff_of_mark marked]
    simp [isWordChar_eq_isAlphanum]
  | none =>
    have unmarked : ¬IsMarkedToken token := by
      intro isMarked
      obtain ⟨body, found⟩ := isMarked.exists_body
      rw [marked] at found
      cases found
    rw [or_iff_left unmarked]
    simp [IsClassicToken, isWordChar_eq_isAlphanum]

/-! ## Lengths -/

/-- The check counts the characters of the whole token, then looks at its form. -/
theorem checkToken_eq (token : String) :
    checkToken token =
      if token.length = 0 then .error .missingToken
      else if token.length < 40 then .error (.tokenTooShort token.length)
      else if 255 < token.length then .error (.tokenTooLong token.length)
      else if hasTokenForm token.toList then .ok ()
      else .error .tokenFormat := by
  have whole : token.toList.length = token.length := String.length_toList
  have nothing : token.toList.isEmpty = true ↔ token.length = 0 := by
    rw [List.isEmpty_iff, ← List.length_eq_zero_iff, whole]
  unfold checkToken hasTokenForm
  simp only [nothing, whole, maxTokenLength, minClassicLength, minMarkedLength, gt_iff_lt]
  cases marked : markedBody? token.toList with
  | some body =>
    -- Fewer than 36 characters after a mark are fewer than 40 in all.
    have counted : token.length = body.length + 4 := whole ▸ length_of_markedBody? marked
    have few : body.length < 36 ↔ token.length < 40 := by omega
    simp only [few]
    split
    · rfl
    · split
      · rw [if_neg (by omega)]
      · rfl
  | none =>
    dsimp only
    split
    · rfl
    · split
      · rw [if_neg (by omega)]
      · rfl

/-- Every token has one result: it is missing, too short or too long by its length alone, and
otherwise it passes exactly if it has one of the two forms. -/
theorem checkToken_classifies (token : String) :
    (checkToken token = .error .missingToken ↔ token.length = 0) ∧
    (∀ n, checkToken token = .error (.tokenTooShort n) ↔
      n = token.length ∧ 0 < token.length ∧ token.length < 40) ∧
    (∀ n, checkToken token = .error (.tokenTooLong n) ↔ n = token.length ∧ 255 < token.length) ∧
    (checkToken token = .ok () ↔ (40 ≤ token.length ∧ token.length ≤ 255) ∧
      (IsClassicToken token ∨ IsMarkedToken token)) ∧
    (checkToken token = .error .tokenFormat ↔ (40 ≤ token.length ∧ token.length ≤ 255) ∧
      ¬(IsClassicToken token ∨ IsMarkedToken token)) := by
  rw [checkToken_eq, ← hasTokenForm_iff]
  -- In each case one result is left, and its condition excludes those of the others.
  split_ifs with missing short long formed
  · grind
  · grind
  · grind
  · grind
  · grind

end Pipewright
