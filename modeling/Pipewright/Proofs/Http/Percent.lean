import Pipewright.Http.Percent
import Pipewright.Text.Split

/-!
# What percent signs stand for

A percent sign with two digits is an escape, and everything else stands for itself. What a part of
an address stands for is not changed when more of it is written with percent signs, as long as the
escapes that it has are left alone (`percentDecode_percentEncode`). A text without an escape stands
for itself (`percentDecode_eq_utf8`), and one with an escape for fewer bytes than it has
(`length_percentDecode`). A form field escapes percent signs too, so any text can be read back from
one (`formFields_formField`).
-/
namespace Pipewright.Http

/-! ## Escapes -/

/-- Whether what follows a percent sign makes an escape of it: two hexadecimal digits. -/
def completesEscape : List Char → Bool
  | a :: b :: _ => (hexValue a).isSome && (hexValue b).isSome
  | _ => false

/-- Whether the first character of a text is a percent sign that starts an escape. -/
def startsEscape (c : Char) (rest : List Char) : Bool := c == '%' && completesEscape rest

/-- Whether a text has an escape. -/
def hasEscape : List Char → Bool
  | [] => false
  | c :: rest => startsEscape c rest || hasEscape rest

/-- A text has an escape when a part of it has one. -/
theorem hasEscape_of_isInfix {part text : List Char} (within : part <:+: text)
    (escapes : hasEscape part = true) : hasEscape text = true := by
  obtain ⟨before, after, rfl⟩ := within
  have complete (rest : List Char) (completes : completesEscape rest = true) :
      completesEscape (rest ++ after) = true := by
    match rest, completes with
    | _ :: _ :: _, completes => exact completes
  have front : hasEscape (part ++ after) = true := by
    induction part with
    | nil => cases escapes
    | cons c part ih =>
      rcases Bool.or_eq_true_iff.mp escapes with here | later
      · obtain ⟨sign, completes⟩ := Bool.and_eq_true_iff.mp here
        exact Bool.or_eq_true_iff.mpr
          (.inl (Bool.and_eq_true_iff.mpr ⟨sign, complete part completes⟩))
      · exact Bool.or_eq_true_iff.mpr (.inr (ih later))
  rw [List.append_assoc]
  induction before with
  | nil => exact front
  | cons c before ih => exact Bool.or_eq_true_iff.mpr (.inr ih)

/-- A character that starts no escape stands for itself. -/
theorem percentDecode_own {c : Char} {rest : List Char} (own : startsEscape c rest = false) :
    percentDecode (c :: rest) = utf8 [c] ++ percentDecode rest := by
  by_cases sign : c = '%'
  · subst sign
    match rest with
    | [] => rfl
    | [a] => rfl
    | a :: b :: rest =>
      rw [percentDecode]
      split
      · next first second => simp [startsEscape, completesEscape, first, second] at own
      · rfl
  · rw [percentDecode]
    exact fun _ _ _ same _ => sign same

/-- A character that is no percent sign stands for itself. -/
theorem percentDecode_cons {c : Char} (noSign : c ≠ '%') (rest : List Char) :
    percentDecode (c :: rest) = utf8 [c] ++ percentDecode rest :=
  percentDecode_own (by simp [startsEscape, noSign])

/-- An escape stands for a byte. -/
theorem percentDecode_escape {a b : Char} {high low : Nat} (first : hexValue a = some high)
    (second : hexValue b = some low) (rest : List Char) :
    percentDecode ('%' :: a :: b :: rest) =
      UInt8.ofNat (high * 16 + low) :: percentDecode rest := by
  rw [percentDecode, first, second]

/-- A text is empty, or starts with a character that stands for itself, or starts with an escape. -/
@[elab_as_elim]
theorem percent_induction {motive : List Char → Prop} (nil : motive [])
    (own : ∀ c rest, startsEscape c rest = false → motive rest → motive (c :: rest))
    (escape : ∀ a b high low rest, hexValue a = some high → hexValue b = some low →
      motive rest → motive ('%' :: a :: b :: rest)) (text : List Char) : motive text := by
  induction text using percentDecode.induct with
  | case1 => exact nil
  | case2 a b rest high low second first ih => exact escape a b high low rest first second ih
  | case3 a b rest apart ih =>
    refine own '%' _ ?_ ih
    cases first : hexValue a with
    | none => simp [startsEscape, completesEscape, first]
    | some high =>
      cases second : hexValue b with
      | none => simp [startsEscape, completesEscape, second]
      | some low => exact (apart high low first second).elim
  | case4 c rest apart ih =>
    refine own c rest ?_ ih
    match rest with
    | [] => simp [startsEscape, completesEscape]
    | [a] => simp [startsEscape, completesEscape]
    | a :: b :: rest =>
      have noSign : c ≠ '%' := fun sign => apart a b rest sign rfl
      simp [startsEscape, noSign]

/-! ## Bytes -/

/-- The bytes of some characters and others are those of the ones and of the others. -/
theorem utf8_append (text rest : List Char) : utf8 (text ++ rest) = utf8 text ++ utf8 rest :=
  List.flatMap_append

/-- The bytes of a text are those of its first character and the others. -/
theorem utf8_cons (c : Char) (rest : List Char) : utf8 (c :: rest) = utf8 [c] ++ utf8 rest :=
  utf8_append [c] rest

/-- A character has at least one byte. -/
theorem length_utf8_pos (c : Char) : 0 < (utf8 [c]).length := by
  have size : (utf8 [c]).length = c.utf8Size := by simp [utf8]
  exact size ▸ c.utf8Size_pos

/-- A text stands for no more bytes than it has, and for fewer if it has an escape. -/
theorem length_percentDecode (text : List Char) :
    (percentDecode text).length ≤ (utf8 text).length ∧
      (hasEscape text = true → (percentDecode text).length < (utf8 text).length) := by
  induction text using percent_induction with
  | nil => exact ⟨Nat.le_refl _, by simp [hasEscape]⟩
  | own c rest own ih =>
    rw [percentDecode_own own, utf8_cons c rest, hasEscape, own, Bool.false_or, List.length_append,
      List.length_append]
    exact ⟨Nat.add_le_add_left ih.1 _, fun escapes => Nat.add_lt_add_left (ih.2 escapes) _⟩
  | escape a b high low rest first second ih =>
    have fewer := ih.1
    have sign := length_utf8_pos '%'
    have digits := length_utf8_pos a
    rw [percentDecode_escape first second, utf8_cons, utf8_cons a]
    simp only [List.length_cons, List.length_append]
    have digit := length_utf8_pos b
    rw [utf8_cons b, List.length_append]
    omega

/-- A text that is not empty stands for at least one byte. -/
theorem length_percentDecode_pos {text : List Char} (filled : text ≠ []) :
    0 < (percentDecode text).length := by
  induction text using percent_induction with
  | nil => exact absurd rfl filled
  | own c rest own =>
    have first := length_utf8_pos c
    rw [percentDecode_own own, List.length_append]
    omega
  | escape a b high low rest first second =>
    rw [percentDecode_escape first second]
    exact Nat.succ_pos _

/-- A text without an escape stands for itself. -/
theorem percentDecode_eq_utf8 {text : List Char} (plain : hasEscape text = false) :
    percentDecode text = utf8 text := by
  induction text with
  | nil => rfl
  | cons c rest ih =>
    obtain ⟨own, later⟩ := Bool.or_eq_false_iff.mp plain
    rw [percentDecode_own own, utf8_cons c rest, ih later]

section Apart

variable {c : Char}

/-- A character that is no digit does not complete an escape. -/
theorem completesEscape_append (noDigit : hexValue c = none) (text rest : List Char) :
    completesEscape (text ++ c :: rest) = completesEscape text := by
  match text with
  | [] => cases rest <;> simp [completesEscape, noDigit]
  | [a] => simp [completesEscape, noDigit]
  | a :: b :: text => rfl

/-- What stands before and after a character that is part of no escape is read apart. -/
theorem percentDecode_append (noDigit : hexValue c = none) (text rest : List Char) :
    percentDecode (text ++ c :: rest) = percentDecode text ++ percentDecode (c :: rest) := by
  induction text using percent_induction with
  | nil => rfl
  | own d text own ih =>
    have still : startsEscape d (text ++ c :: rest) = false := by
      rw [startsEscape, completesEscape_append noDigit]
      exact own
    rw [List.cons_append, percentDecode_own still, percentDecode_own own, ih, List.append_assoc]
  | escape a b high low text first second ih =>
    simp only [List.cons_append]
    rw [percentDecode_escape first second, percentDecode_escape first second, ih,
      List.cons_append]

end Apart

/-! ## Encoding -/

/-- Whether the characters of a set are none that escapes are made of. -/
def SparesEscapes (encoded : Char → Bool) : Prop :=
  encoded '%' = false ∧ ∀ c, (hexValue c).isSome → encoded c = false

/-- The digit of a number below sixteen has its value. -/
theorem hexValue_hexDigit : ∀ n < 16, hexValue (hexDigit n) = some n := by decide

/-- A byte with a percent sign is read back. -/
theorem percentDecode_percentByte (b : UInt8) (rest : List Char) :
    percentDecode (percentByte b ++ rest) = b :: percentDecode rest := by
  have below : b.toNat < 256 := b.toNat_lt
  have high := hexValue_hexDigit (b.toNat / 16) (by omega)
  have low := hexValue_hexDigit (b.toNat % 16) (by omega)
  have whole : b.toNat / 16 * 16 + b.toNat % 16 = b.toNat := by omega
  rw [percentByte, List.cons_append, List.cons_append, List.cons_append, List.nil_append,
    percentDecode_escape high low, whole, UInt8.ofNat_toNat]

/-- Bytes with percent signs are read back. -/
theorem percentDecode_percentBytes (bytes : List UInt8) (rest : List Char) :
    percentDecode (bytes.flatMap percentByte ++ rest) = bytes ++ percentDecode rest := by
  induction bytes with
  | nil => rfl
  | cons b bytes ih =>
    rw [List.flatMap_cons, List.append_assoc, percentDecode_percentByte, ih, List.cons_append]

/-- Some characters and others are encoded one after another. -/
theorem percentEncode_cons (encoded : Char → Bool) (c : Char) (rest : List Char) :
    percentEncode encoded (c :: rest) =
      (if encoded c then (utf8 [c]).flatMap percentByte else [c]) ++ percentEncode encoded rest :=
  List.flatMap_cons

variable {encoded : Char → Bool}

/-- Some characters and others are encoded one after another. -/
theorem percentEncode_append (text rest : List Char) :
    percentEncode encoded (text ++ rest) =
      percentEncode encoded text ++ percentEncode encoded rest := List.flatMap_append

/-- A text without characters that are encoded stays as it is. -/
theorem percentEncode_eq_self {text : List Char} (clear : ∀ c ∈ text, encoded c = false) :
    percentEncode encoded text = text := by
  induction text with
  | nil => rfl
  | cons c rest ih =>
    have own : encoded c = false := clear c List.mem_cons_self
    rw [percentEncode_cons, own, ih fun d member => clear d (List.mem_cons_of_mem c member)]
    rfl

/-- Where an encoded text starts with a digit, so does the text. -/
theorem exists_of_percentEncode_eq_cons {text later : List Char} {digit : Char}
    (isDigit : (hexValue digit).isSome) (starts : percentEncode encoded text = digit :: later) :
    ∃ rest, text = digit :: rest ∧ later = percentEncode encoded rest := by
  cases text with
  | nil => cases starts
  | cons c rest =>
    rw [percentEncode_cons] at starts
    split at starts
    · cases bytes : utf8 [c] with
      | nil => exact absurd (length_utf8_pos c) (by simp [bytes])
      | cons b others =>
        rw [bytes] at starts
        -- An encoded character starts with a percent sign, which is no digit.
        obtain ⟨rfl, -⟩ := List.cons.inj starts
        exact absurd isDigit (by decide)
    · obtain ⟨rfl, rfl⟩ := List.cons.inj starts
      exact ⟨rest, rfl, rfl⟩

/-- Encoding completes no escape. -/
theorem completesEscape_of_percentEncode {text : List Char}
    (complete : completesEscape (percentEncode encoded text) = true) :
    completesEscape text = true := by
  match written : percentEncode encoded text, complete with
  | a :: b :: later, complete =>
    obtain ⟨first, second⟩ := (Bool.and_eq_true_iff).mp complete
    obtain ⟨rest, rfl, following⟩ := exists_of_percentEncode_eq_cons first written
    obtain ⟨others, rfl, -⟩ := exists_of_percentEncode_eq_cons second following.symm
    exact Bool.and_eq_true_iff.mpr ⟨first, second⟩

/-- A character that starts no escape does not start one after encoding. -/
theorem startsEscape_percentEncode {c : Char} {rest : List Char}
    (own : startsEscape c rest = false) :
    startsEscape c (percentEncode encoded rest) = false := by
  refine Bool.eq_false_iff.mpr fun starts => Bool.eq_false_iff.mp own ?_
  obtain ⟨sign, complete⟩ := Bool.and_eq_true_iff.mp starts
  exact Bool.and_eq_true_iff.mpr ⟨sign, completesEscape_of_percentEncode complete⟩

/-- What a text stands for stays the same when characters that no escape is made of are encoded. -/
theorem percentDecode_percentEncode (spares : SparesEscapes encoded) (text : List Char) :
    percentDecode (percentEncode encoded text) = percentDecode text := by
  obtain ⟨spareSign, spareDigits⟩ := spares
  induction text using percent_induction with
  | nil => rfl
  | own c rest own ih =>
    rw [percentDecode_own own, percentEncode_cons]
    split
    · rw [percentDecode_percentBytes, ih]
    · exact (percentDecode_own (startsEscape_percentEncode own)).trans
        (congrArg (utf8 [c] ++ ·) ih)
  | escape a b high low rest first second ih =>
    have spareFirst : encoded a = false := spareDigits a (by simp [first])
    have spareSecond : encoded b = false := spareDigits b (by simp [second])
    have written : percentEncode encoded ('%' :: a :: b :: rest) =
        '%' :: a :: b :: percentEncode encoded rest := by
      simp [percentEncode, spareSign, spareFirst, spareSecond]
    rw [written, percentDecode_escape first second, percentDecode_escape first second, ih]

/-! ## Form fields -/

/-- A space for a plus sign. -/
def spaceOfPlus (c : Char) : Char := if c = '+' then ' ' else c

/-- What the name or the value of a form field stands for. -/
def formValue (text : List Char) : List UInt8 := percentDecode (text.map spaceOfPlus)

/-- The form fields of a query, each with what its name and its value stand for. -/
def formFields (query : List Char) : List (List UInt8 × List UInt8) :=
  ((splitAtChar '&' query).filter fun field => !field.isEmpty).map fun field =>
    (formValue (field.takeWhile (· != '=')), formValue ((field.dropWhile (· != '=')).drop 1))

/-- Some characters and others are encoded one after another in a form field. -/
theorem formEncode_cons (c : Char) (rest : List Char) :
    formEncode (c :: rest) = formEncode [c] ++ formEncode rest := by
  simp [formEncode]

/-- The digits of a byte are no plus signs. -/
theorem map_percentByte (b : UInt8) : (percentByte b).map spaceOfPlus = percentByte b := by
  have noPlus : ∀ n < 16, spaceOfPlus (hexDigit n) = hexDigit n := by decide
  have below : b.toNat < 256 := b.toNat_lt
  simp only [percentByte, List.map_cons, List.map_nil, noPlus (b.toNat / 16) (by omega),
    noPlus (b.toNat % 16) (by omega)]
  rfl

/-- One character of a form field is read back. -/
theorem formValue_formEncode_append (c : Char) (rest : List Char) :
    formValue (formEncode [c] ++ rest) = utf8 [c] ++ formValue rest := by
  unfold formValue formEncode
  rw [List.flatMap_singleton, List.map_append]
  split
  · next plain =>
    have noPlus : spaceOfPlus c = c :=
      if_neg fun same => by subst same; exact absurd plain (by decide)
    have noSign : c ≠ '%' := fun same => by subst same; exact absurd plain (by decide)
    rw [List.map_singleton, noPlus]
    exact percentDecode_cons noSign _
  · split
    · next blank =>
      obtain rfl := eq_of_beq blank
      exact percentDecode_cons (by decide) _
    · have kept : ((utf8 [c]).flatMap percentByte).map spaceOfPlus =
          (utf8 [c]).flatMap percentByte := by
        simp only [List.map_flatMap, map_percentByte]
      rw [kept, percentDecode_percentBytes]

/-- The name or the value of a form field is read back. -/
theorem formValue_formEncode (text : List Char) : formValue (formEncode text) = utf8 text := by
  induction text with
  | nil => rfl
  | cons c rest ih => rw [formEncode_cons, formValue_formEncode_append, ih, utf8_cons c rest]

/-- Nothing that separates form fields or their parts is in a name or a value. -/
theorem not_mem_formEncode {separator : Char} (text : List Char)
    (separates : separator = '&' ∨ separator = '=') : separator ∉ formEncode text := by
  have noPlain : isPlainInForm separator = false := by
    rcases separates with rfl | rfl <;> decide
  have noDigit : ∀ n < 16, separator ≠ hexDigit n := by
    rcases separates with rfl | rfl <;> decide
  have noSign : separator ≠ '+' ∧ separator ≠ '%' := by
    rcases separates with rfl | rfl <;> decide
  intro member
  obtain ⟨c, -, within⟩ := List.mem_flatMap.mp member
  split at within
  · next plain =>
    obtain rfl := List.mem_singleton.mp within
    exact absurd plain (Bool.eq_false_iff.mp noPlain)
  · split at within
    · exact noSign.1 (List.mem_singleton.mp within)
    · obtain ⟨b, -, inByte⟩ := List.mem_flatMap.mp within
      have below : b.toNat < 256 := b.toNat_lt
      simp only [percentByte, List.mem_cons, List.not_mem_nil, or_false] at inByte
      rcases inByte with sign | high | low
      · exact noSign.2 sign
      · exact noDigit _ (by omega) high
      · exact noDigit _ (by omega) low

/-- A text without a separator is one part. -/
theorem splitAtChar_of_not_mem {separator : Char} {text : List Char} (apart : separator ∉ text) :
    splitAtChar separator text = [text] := by
  induction text with
  | nil => rfl
  | cons c rest ih =>
    obtain ⟨other, later⟩ := not_or.mp (mt List.mem_cons.mpr apart)
    rw [splitAtChar, if_neg (Ne.symm other), ih later]

/-- A form field stands for its name and its value. -/
theorem formFields_formField (name value : List Char) :
    formFields (formEncode name ++ '=' :: formEncode value) = [(utf8 name, utf8 value)] := by
  have joint : '&' ∉ formEncode name ++ '=' :: formEncode value := by
    simp [not_mem_formEncode _ (.inl rfl)]
  have before : ∀ c ∈ formEncode name, (c != '=') = true := fun c member =>
    bne_iff_ne.mpr fun same => not_mem_formEncode name (.inr rfl) (same ▸ member)
  have name_eq : (formEncode name ++ '=' :: formEncode value).takeWhile (· != '=') =
      formEncode name := by
    rw [List.takeWhile_append_of_pos before, List.takeWhile_cons_of_neg (by decide),
      List.append_nil]
  have value_eq : (formEncode name ++ '=' :: formEncode value).dropWhile (· != '=') =
      '=' :: formEncode value := by
    rw [List.dropWhile_append_of_pos before, List.dropWhile_cons_of_neg (by decide)]
  rw [formFields, splitAtChar_of_not_mem joint, List.filter_cons_of_pos (by simp),
    List.filter_nil, List.map_singleton, name_eq, value_eq, List.drop_one, List.tail_cons,
    formValue_formEncode, formValue_formEncode]

end Pipewright.Http
