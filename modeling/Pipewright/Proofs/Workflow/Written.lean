import Pipewright.Proofs.Workflow.Scalar
import Pipewright.Proofs.Yaml.Scalar

/-!
# Scalars are read back

What is written between quotes is read as the text for which it was written. What is written bare is
a word, and it stands for that word unless it has the shape of a number in base eight or sixteen
(`Scalar.value_written`): these two shapes are the only ones of the core schema that a bare scalar
can have, since decimal numbers, truth values and nulls are quoted.
-/
namespace Pipewright.Scalar

open Yaml

variable {text : String} {rest : List Char}

/-- The scalar as which a text is written. -/
def written (text : String) : Yaml.Scalar := ⟨text, !isPlain text⟩

/-! ## Quoted texts -/

/-- A character that is written between quotes is read there. -/
theorem readQuoted_escape (c : Char) :
    readQuoted (escape c ++ rest) = before (some c) (readQuoted rest) := by
  unfold escape
  by_cases quote : c = '"'
  · subst quote; rfl
  by_cases slash : c = '\\'
  · subst slash; rfl
  by_cases lineEnd : c = '\n'
  · subst lineEnd; rfl
  by_cases carriageReturn : c = '\r'
  · subst carriageReturn; rfl
  by_cases tab : c = '\t'
  · subst tab; rfl
  rw [if_neg quote, if_neg slash, if_neg lineEnd, if_neg carriageReturn, if_neg tab]
  by_cases control : isControl c = true
  · have number : ∀ n < 256, codePoint ['0', '0', hexDigit (n / 16), hexDigit (n % 16)] =
        some (Char.ofNat n) := by decide +kernel
    have read := number c.toNat (toNat_lt_of_isControl control)
    rw [Char.ofNat_toNat] at read
    rw [if_pos control, ← read]
    rfl
  · have quotable : isQuotable c = true := by
      simp [isControl] at control
      simp [isQuotable, quote, slash]
      omega
    rw [if_neg control, List.singleton_append, readQuoted, if_pos quotable]
    · rintro ⟨⟩
      exact quote rfl
    all_goals
      intros
      exact slash ‹_›

/-- A quoted text is read back, whatever follows it. -/
theorem readScalar_quoted (text : String) (rest : List Char) :
    readScalar (quoted text ++ rest) = some (⟨text, true⟩, rest) := by
  have inside : ∀ cs : List Char,
      readQuoted (cs.flatMap escape ++ '"' :: rest) = some (cs, rest) := by
    intro cs
    induction cs with
    | nil => rw [List.flatMap_nil, List.nil_append, readQuoted]
    | cons c cs ih =>
      rw [List.flatMap_cons, List.append_assoc, readQuoted_escape, ih]
      rfl
  rw [quoted, List.cons_append, List.append_assoc, readScalar, List.singleton_append, inside,
    Option.map_some]
  exact congrArg (fun content => some (Yaml.Scalar.mk content true, rest)) String.ofList_toList

/-! ## Bare scalars -/

/-- A bare scalar has only characters of ASCII. -/
theorem toNat_lt_of_mayFollow {c : Char} (follows : mayFollow c = true) : c.toNat < 128 := by
  simp only [mayFollow, isAlphanumeric, Bool.or_eq_true, Bool.and_eq_true, decide_eq_true_eq,
    beq_iff_eq, Char.le_def, UInt32.le_iff_toNat_le] at follows
  rcases follows with ((((letter | rfl) | rfl) | rfl) | rfl)
  · rcases letter with (⟨-, last⟩ | ⟨-, last⟩) | ⟨-, last⟩
    all_goals exact Nat.lt_of_le_of_lt last (by decide)
  all_goals decide

/-- A word may start with whatever a bare scalar may start with. -/
theorem startsWord_of_mayStart {c : Char} (starts : mayStart c = true) : startsWord c = true :=
  forall_ascii (p := fun c => mayStart c = true → startsWord c = true) (by decide)
    (toNat_lt_of_mayFollow (mayFollow_of_mayStart starts)) starts

/-- A word may go on with whatever a bare scalar may go on with. -/
theorem continuesWord_of_mayFollow {c : Char} (follows : mayFollow c = true) :
    continuesWord c = true :=
  forall_ascii (p := fun c => mayFollow c = true → continuesWord c = true) (by decide)
    (toNat_lt_of_mayFollow follows) follows

/-- A bare scalar is a word. -/
theorem isWord_of_isPlain (plain : isPlain text = true) : isWord text = true := by
  obtain ⟨first, others, characters, starts, follow⟩ := exists_of_isPlain plain
  unfold isWord
  rw [characters, Bool.and_eq_true, List.all_eq_true]
  exact ⟨startsWord_of_mayStart starts,
    fun c member => continuesWord_of_mayFollow (List.all_eq_true.mp follow c member)⟩

/-- A scalar is read back up to where a word cannot go on. -/
theorem readScalar_scalar (text : String) (ends : ∀ c ∈ rest.head?, ¬continuesWord c = true) :
    readScalar (scalar text ++ rest) = some (written text, rest) := by
  unfold scalar written
  by_cases plain : isPlain text = true
  · rw [if_pos plain, plain]
    exact readScalar_word (isWord_of_isPlain plain) ends
  · rw [if_neg plain, Bool.eq_false_iff.mpr plain]
    exact readScalar_quoted text rest

/-! ## Numbers -/

/-- A digit of a number in some base may stand in a bare scalar. -/
theorem mayFollow_of_hexValue {c : Char} {d : Nat} (value : Pipewright.hexValue c = some d) :
    mayFollow c = true :=
  forall_ascii (p := fun c => (Pipewright.hexValue c).isSome = true → mayFollow c = true)
    (by decide) (toNat_lt_of_hexValue value) (by rw [value]; rfl)

/-- What follows the mark of an exponent is its digits, after a sign or without. -/
theorem isExponent_cons (mark : Char) (rest : List Char) :
    isExponent (mark :: rest) =
      ((mark == 'e' || mark == 'E') &&
        (!(signed rest).2.isEmpty && (signed rest).2.all Char.isDigit)) := by
  cases rest with
  | nil => rfl
  | cons sign digits =>
    by_cases plus : sign = '+'
    · subst plus; rfl
    by_cases minus : sign = '-'
    · subst minus; rfl
    have unsigned : signed (sign :: digits) = (false, sign :: digits) := by
      unfold signed
      split <;> simp_all
    rw [unsigned, isExponent]
    · exact fun more same => plus (List.cons.inj same).1
    · exact fun more same => minus (List.cons.inj same).1

/-- The exponent of a float is an exponent. -/
theorem isExponent_of_readExponent {cs : List Char} {exponent : Int}
    (read : readExponent cs = some exponent) : isExponent cs = true := by
  cases cs with
  | nil => rfl
  | cons mark rest =>
    rw [readExponent] at read
    split at read
    · next isMark =>
      rw [readDecimal, Option.map_eq_some_iff] at read
      obtain ⟨n, digits, -⟩ := read
      obtain ⟨filled, all⟩ := isDigit_of_readDigits digits
      rw [isExponent_cons, List.all_eq_true.mpr all]
      simp [isMark, filled]
    · cases read

/-- A decimal number has a digit before or after its point, and then at most an exponent. -/
theorem isDecimal_eq (cs : List Char) :
    isDecimal cs = (!(cs.takeWhile Char.isDigit ++ (fraction (afterDigits cs)).1).isEmpty &&
      isExponent (fraction (afterDigits cs)).2) := by
  unfold isDecimal
  cases afterDigits cs with
  | nil => simp [fraction]
  | cons c rest =>
    by_cases point : c = '.'
    · subst point
      cases cs.takeWhile Char.isDigit <;> simp [fraction, afterDigits]
    · unfold fraction
      split <;> simp_all

/-- Characters that are all digits are a decimal number. -/
theorem isDecimal_of_readDigits {cs : List Char} {n : Nat} (read : readDigits 10 cs = some n) :
    isDecimal cs = true := by
  obtain ⟨filled, all⟩ := isDigit_of_readDigits read
  have taken : (cs ++ []).takeWhile Char.isDigit = cs := takeWhile_run all nofun
  have dropped : (cs ++ []).dropWhile Char.isDigit = [] := dropWhile_run all nofun
  rw [List.append_nil] at taken dropped
  rw [isDecimal_eq, afterDigits, taken, dropped]
  simp [fraction, filled, isExponent]

/-- A float without a sign is a decimal number. -/
theorem isDecimal_of_readFloat {cs : List Char} {q : Rat} (unsigned : signed cs = (false, cs))
    (read : readFloat cs = some q) : isDecimal cs = true := by
  rw [isDecimal_eq, afterDigits]
  simp only [readFloat, unsigned] at read
  split at read
  · next digits exponent mantissa power =>
    rw [isExponent_of_readExponent power, Bool.and_true, Bool.not_eq_true',
      List.isEmpty_eq_false_iff]
    exact (isDigit_of_readDigits mantissa).1
  · cases read

/-! ## What a scalar stands for -/

/-- The number of a text that has the shape of one in base eight or sixteen. -/
def radixNumber? (text : String) : Option Nat :=
  match text.toList with
  | '0' :: 'o' :: digits => readDigits 8 digits
  | '0' :: 'x' :: digits => readDigits 16 digits
  | _ => none

/-- What a text is read back as: itself, unless it has the shape of a number in base eight or
sixteen. -/
def readBack (text : String) : Value :=
  match radixNumber? text with
  | some n => .int n
  | none => .text text

/-- A text is read back as itself unless it has such a shape. -/
theorem readBack_eq_text_iff : readBack text = .text text ↔ radixNumber? text = none := by
  unfold readBack
  cases radixNumber? text with
  | none => exact iff_of_true rfl rfl
  | some n => exact iff_of_false nofun nofun

/-- A bare scalar is none of the words that stand for something else. -/
theorem not_mem_of_isPlain {words : List String} (plain : isPlain text = true)
    (none : ∀ word ∈ words, isPlain word = false) : text ∉ words := by
  intro member
  rw [none text member] at plain
  cases plain

/-- The core schema looks at a bare scalar for a number only. -/
theorem ofWord_of_isPlain (plain : isPlain text = true) : Value.ofWord text = .ofOther text := by
  rw [Value.ofWord, if_neg (not_mem_of_isPlain plain (by decide +kernel)),
    if_neg (not_mem_of_isPlain plain (by decide +kernel)),
    if_neg (not_mem_of_isPlain plain (by decide +kernel)),
    if_neg (not_mem_of_isPlain plain (by decide +kernel)),
    if_neg (not_mem_of_isPlain plain (by decide +kernel)),
    if_neg (not_mem_of_isPlain plain (by decide +kernel))]

/-- A bare scalar does not start with a sign. -/
theorem signed_of_isPlain (plain : isPlain text = true) :
    signed text.toList = (false, text.toList) := by
  obtain ⟨first, others, characters, starts, -⟩ := exists_of_isPlain plain
  rw [characters]
  unfold signed
  split
  · next same =>
    cases same
    exact absurd starts (by decide)
  · next same =>
    cases same
    exact absurd starts (by decide)
  · rfl

/-- A bare scalar is no decimal number. -/
theorem isDecimal_of_isPlain (plain : isPlain text = true) : isDecimal text.toList = false := by
  unfold isPlain at plain
  split at plain
  · cases plain
  · simp only [isNumber, Bool.and_eq_true, Bool.not_eq_true', Bool.or_eq_false_iff] at plain
    exact plain.2.2

/-- The only integers that a bare scalar stands for are those in base eight or sixteen. -/
theorem readInt_of_isPlain (plain : isPlain text = true) :
    readInt text.toList = (radixNumber? text).map Int.ofNat := by
  have decimal : readDecimal text.toList = none := by
    rw [readDecimal, signed_of_isPlain plain]
    cases read : readDigits 10 text.toList with
    | none => rfl
    | some n =>
      have decimal := isDecimal_of_readDigits read
      rw [isDecimal_of_isPlain plain] at decimal
      cases decimal
  unfold readInt
  split
  · next same => simp only [radixNumber?, same]
  · next same => simp only [radixNumber?, same]
  · next octal hexadecimal =>
    have apart : radixNumber? text = none := by
      unfold radixNumber?
      split
      · next digits same => exact absurd same (octal digits)
      · next digits same => exact absurd same (hexadecimal digits)
      · rfl
    rw [decimal, apart, Option.map_none]

/-- A bare scalar stands for no float. -/
theorem readFloat_of_isPlain (plain : isPlain text = true) : readFloat text.toList = none := by
  cases read : readFloat text.toList with
  | none => rfl
  | some q =>
    have decimal := isDecimal_of_readFloat (signed_of_isPlain plain) read
    rw [isDecimal_of_isPlain plain] at decimal
    cases decimal

/-- A text that starts with a zero and a letter that is no mark of an exponent, and goes on with
digits in some base, is written bare. -/
theorem isPlain_of_zero {letter : Char} {digits : List Char} {base n : Nat}
    (characters : text.toList = '0' :: letter :: digits) (follows : mayFollow letter = true)
    (apart : isDecimal ('0' :: letter :: digits) = false)
    (read : readDigits base digits = some n) : isPlain text = true := by
  have all : (letter :: digits).all mayFollow = true := by
    rw [List.all_eq_true, List.forall_mem_cons]
    refine ⟨follows, fun c member => ?_⟩
    obtain ⟨d, -, value⟩ := (digits_of_readDigits read).2 c member
    exact mayFollow_of_hexValue value
  have zero : (lowerCase text).toList.head? = some '0' := by
    rw [lowerCase, String.toList_ofList, characters]
    rfl
  have other : ∀ words : List String, (∀ word ∈ words, word.toList.head? ≠ some '0') →
      words.contains (lowerCase text) = false := by
    intro words apart
    rw [Bool.eq_false_iff, ne_eq, List.contains_iff_mem]
    exact fun member => apart _ member zero
  unfold isPlain isNumber
  rw [other reserved (by decide), other numberWords (by decide), characters, apart]
  simp only [all]
  rfl

/-- A text that has the shape of a number in base eight or sixteen is written bare. -/
theorem isPlain_of_radixNumber {n : Nat} (radix : radixNumber? text = some n) :
    isPlain text = true := by
  unfold radixNumber? at radix
  split at radix
  · next characters => exact isPlain_of_zero characters (by decide) rfl radix
  · next characters => exact isPlain_of_zero characters (by decide) rfl radix
  · cases radix

/-- What is written for a text stands for what the text is read back as. -/
theorem value_written (text : String) : (written text).value = readBack text := by
  unfold written Yaml.Scalar.value readBack
  by_cases plain : isPlain text = true
  · rw [plain, Bool.not_true, if_neg Bool.false_ne_true, ofWord_of_isPlain plain, Value.ofOther,
      readInt_of_isPlain plain, readFloat_of_isPlain plain]
    cases radixNumber? text with
    | none => rfl
    | some n => rfl
  · cases radix : radixNumber? text with
    | none =>
      rw [Bool.eq_false_iff.mpr plain]
      rfl
    | some n => exact absurd (isPlain_of_radixNumber radix) plain

end Pipewright.Scalar
