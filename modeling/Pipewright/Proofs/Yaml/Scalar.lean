import Pipewright.Text.Digits

/-!
# Scalars of YAML

How YAML 1.2 takes a scalar. Between double quotes it is always a text, and a backslash starts an
escape (section 5.7 there). A bare word is whatever the core schema makes of it (section 10.3.2): a
null, a truth value, an integer in one of three bases, a float, or else a text.

Of the bare scalars only single words of visible ASCII characters are read, and only those that
mean the same within a list in brackets as outside of one. Whatever is read here YAML reads as the
same, and nothing is claimed of the rest.
-/
namespace Pipewright.Yaml

/-- What a scalar stands for. -/
inductive Value where
  /-- Nothing. -/
  | null
  /-- A truth value. -/
  | bool (b : Bool)
  /-- An integer. -/
  | int (n : Int)
  /-- A number with a point or an exponent. -/
  | float (q : Rat)
  /-- An infinite number. -/
  | infinity (negative : Bool)
  /-- Not a number. -/
  | nan
  /-- A text. -/
  | text (s : String)
  deriving DecidableEq

/-- A scalar, without its quotes and with its escapes resolved. -/
structure Scalar where
  /-- Its characters. -/
  content : String
  /-- Whether it stands between quotes. -/
  isQuoted : Bool
  deriving DecidableEq

/-! ## The core schema -/

/-- Whether a minus is in front, and what follows the sign if there is one. -/
def signed : List Char → Bool × List Char
  | '+' :: rest => (false, rest)
  | '-' :: rest => (true, rest)
  | cs => (false, cs)

/-- A number or, after a minus, its opposite. -/
def withSign (negative : Bool) (n : Nat) : Int := if negative then -n else n

/-- A decimal integer, with a sign or without. -/
def readDecimal (cs : List Char) : Option Int :=
  (readDigits 10 (signed cs).2).map (withSign (signed cs).1)

/-- An integer in base eight, sixteen or ten. -/
def readInt : List Char → Option Int
  | '0' :: 'o' :: digits => (readDigits 8 digits).map Int.ofNat
  | '0' :: 'x' :: digits => (readDigits 16 digits).map Int.ofNat
  | cs => readDecimal cs

/-- The exponent after a mantissa, zero when nothing follows it. -/
def readExponent : List Char → Option Int
  | [] => some 0
  | mark :: rest => if mark = 'e' ∨ mark = 'E' then readDecimal rest else none

/-- The digits after a point, if there is one, and what follows them. -/
def fraction : List Char → List Char × List Char
  | '.' :: rest => (rest.takeWhile Char.isDigit, rest.dropWhile Char.isDigit)
  | rest => ([], rest)

/-- A number with digits before or after a point, and perhaps an exponent. -/
def readFloat (cs : List Char) : Option Rat :=
  let (negative, cs) := signed cs
  let whole := cs.takeWhile Char.isDigit
  let (decimals, rest) := fraction (cs.dropWhile Char.isDigit)
  match readDigits 10 (whole ++ decimals), readExponent rest with
  | some digits, some exponent =>
    some (withSign negative digits * (10 : Rat) ^ (exponent - (decimals.length : Int)))
  | _, _ => none

/-- What the core schema takes a bare word for, the words it lists apart. -/
def Value.ofOther (word : String) : Value :=
  match readInt word.toList with
  | some n => .int n
  | none =>
    match readFloat word.toList with
    | some q => .float q
    | none => .text word

/-- What the core schema takes a bare word for. -/
def Value.ofWord (word : String) : Value :=
  if word ∈ ["", "~", "null", "Null", "NULL"] then .null
  else if word ∈ ["true", "True", "TRUE"] then .bool true
  else if word ∈ ["false", "False", "FALSE"] then .bool false
  else if word ∈ [".inf", ".Inf", ".INF", "+.inf", "+.Inf", "+.INF"] then .infinity false
  else if word ∈ ["-.inf", "-.Inf", "-.INF"] then .infinity true
  else if word ∈ [".nan", ".NaN", ".NAN"] then .nan
  else .ofOther word

/-- What a scalar stands for. -/
def Scalar.value (s : Scalar) : Value := if s.isQuoted then .text s.content else .ofWord s.content

/-! ## Quoted texts -/

/-- The character that a letter after a backslash stands for. -/
def unescape (letter : Char) : Option Char :=
  if letter ∈ ['"', '\\', '/', ' ', '\t'] then some letter
  else
    [('0', '\x00'), ('a', '\x07'), ('b', '\x08'), ('t', '\t'), ('n', '\n'), ('v', '\x0b'),
      ('f', '\x0c'), ('r', '\r'), ('e', '\x1b'), ('N', '\x85'), ('_', '\xa0'), ('L', '\u2028'),
      ('P', '\u2029')].lookup letter

/-- The character whose number digits give. -/
def codePoint (digits : List Char) : Option Char :=
  match readDigits 16 digits with
  | some n => if n.isValidChar then some (Char.ofNat n) else none
  | none => none

/-- Whether a character may stand for itself between quotes on one line. -/
def isQuotable (c : Char) : Bool := (c = '\t' || 0x20 ≤ c.toNat) && c != '"' && c != '\\'

/-- A character before a text and what remains after it, if both are there. -/
def before (c : Option Char) (rest : Option (List Char × List Char)) :
    Option (List Char × List Char) :=
  match c, rest with
  | some c, some (text, rest) => some (c :: text, rest)
  | _, _ => none

/-- The text up to the closing quote, and what remains after it. -/
def readQuoted : List Char → Option (List Char × List Char)
  | [] => none
  | '"' :: rest => some ([], rest)
  | '\\' :: 'x' :: a :: b :: rest => before (codePoint [a, b]) (readQuoted rest)
  | '\\' :: 'u' :: a :: b :: c :: d :: rest => before (codePoint [a, b, c, d]) (readQuoted rest)
  | '\\' :: 'U' :: a :: b :: c :: d :: e :: f :: g :: h :: rest =>
    before (codePoint [a, b, c, d, e, f, g, h]) (readQuoted rest)
  | '\\' :: letter :: rest => before (unescape letter) (readQuoted rest)
  | c :: rest => before (if isQuotable c then some c else none) (readQuoted rest)

/-! ## Words -/

/-- Whether a character is a visible one of ASCII. -/
def isVisible (c : Char) : Bool := 0x21 ≤ c.toNat && c.toNat ≤ 0x7E

/-- The characters that have a meaning of their own at the start of a scalar. -/
def indicators : List Char :=
  ['-', '?', ':', ',', '[', ']', '\x7b', '\x7d', '#', '&', '*', '!', '|', '>', '\'', '"', '%', '@',
    '\x60']

/-- Whether a word may start with a character. -/
def startsWord (c : Char) : Bool := isVisible c && !indicators.contains c

/-- The characters before which a word ends. -/
def wordEnds : List Char := [':', '#', ',', '[', ']', '\x7b', '\x7d']

/-- Whether a word may go on with a character. -/
def continuesWord (c : Char) : Bool := isVisible c && !wordEnds.contains c

/-- The word in front, and what follows it. -/
def readWord : List Char → Option (Scalar × List Char)
  | [] => none
  | first :: rest =>
    if startsWord first then
      some (⟨String.ofList (first :: rest.takeWhile continuesWord), false⟩,
        rest.dropWhile continuesWord)
    else none

/-- The scalar in front, and what follows it. -/
def readScalar : List Char → Option (Scalar × List Char)
  | '"' :: rest => (readQuoted rest).map fun (text, rest) => (⟨String.ofList text, true⟩, rest)
  | cs => readWord cs

/-- Whether a text is a single word. -/
def isWord (text : String) : Bool :=
  match text.toList with
  | [] => false
  | first :: rest => startsWord first && rest.all continuesWord

section Runs

variable {α : Type} {p : α → Bool} {run rest : List α}

/-- Elements with a property are taken up to where they end. -/
theorem takeWhile_run (holds : ∀ x ∈ run, p x = true) (ends : ∀ x ∈ rest.head?, ¬p x = true) :
    (run ++ rest).takeWhile p = run := by
  rw [List.takeWhile_append_of_pos holds]
  cases rest with
  | nil => rw [List.takeWhile_nil, List.append_nil]
  | cons x rest => rw [List.takeWhile_cons_of_neg (ends x rfl), List.append_nil]

/-- What follows elements with a property is left. -/
theorem dropWhile_run (holds : ∀ x ∈ run, p x = true) (ends : ∀ x ∈ rest.head?, ¬p x = true) :
    (run ++ rest).dropWhile p = rest := by
  rw [List.dropWhile_append_of_pos holds]
  cases rest with
  | nil => rfl
  | cons x rest => exact List.dropWhile_cons_of_neg (ends x rfl)

end Runs

/-- A word cannot go on with a character that continues none. -/
theorem ends_cons {c : Char} (stops : continuesWord c = false) (rest : List Char) :
    ∀ first ∈ (c :: rest).head?, ¬continuesWord first = true := by
  rintro first ⟨⟩
  rw [stops]
  exact Bool.false_ne_true

/-- A word is read up to where it cannot go on. -/
theorem readScalar_word {word : String} {rest : List Char} (single : isWord word = true)
    (ends : ∀ c ∈ rest.head?, ¬continuesWord c = true) :
    readScalar (word.toList ++ rest) = some (⟨word, false⟩, rest) := by
  unfold isWord at single
  split at single
  · cases single
  · next first others characters =>
    rw [Bool.and_eq_true, List.all_eq_true] at single
    obtain ⟨starts, continues⟩ := single
    have unquoted : first ≠ '"' := by
      rintro rfl
      exact absurd starts (by decide)
    have word_eq : String.ofList (first :: others) = word := by
      rw [← characters, String.ofList_toList]
    rw [characters, List.cons_append, readScalar, readWord, if_pos starts,
      takeWhile_run continues ends, dropWhile_run continues ends, word_eq]
    rintro _ ⟨⟩
    exact unquoted rfl

/-! ## Digits -/

/-- What holds of all characters of ASCII holds of one of them. -/
theorem forall_ascii {p : Char → Prop} (all : ∀ n < 128, p (Char.ofNat n)) {c : Char}
    (small : c.toNat < 128) : p c := by
  have here := all c.toNat small
  rwa [Char.ofNat_toNat] at here

/-- A hexadecimal digit is a character of ASCII. -/
theorem toNat_lt_of_hexValue {c : Char} {d : Nat} (value : hexValue c = some d) :
    c.toNat < 128 := by
  refine Nat.lt_of_not_le fun large => ?_
  rw [hexValue, if_neg (by simp; omega), if_neg (by simp; omega), if_neg (by simp; omega)] at value
  cases value

/-- Digits are at least one, and each is one of the base. -/
theorem digits_of_readDigits {base n : Nat} {cs : List Char} (read : readDigits base cs = some n) :
    cs ≠ [] ∧ ∀ c ∈ cs, ∃ d < base, hexValue c = some d := by
  unfold readDigits at read
  split at read
  · cases read
  · next filled =>
    refine ⟨fun none => filled (by rw [none]; rfl), ?_⟩
    clear filled
    generalize 0 = start at read
    induction cs generalizing start with
    | nil => exact nofun
    | cons c cs ih =>
      rw [List.foldlM_cons, Option.bind_eq_bind, Option.bind_eq_some_iff] at read
      obtain ⟨next, digit, others⟩ := read
      refine List.forall_mem_cons.mpr ⟨?_, ih next others⟩
      cases value : hexValue c with
      | none =>
        rw [value] at digit
        cases digit
      | some d =>
        rw [value] at digit
        by_cases small : d < base
        · exact ⟨d, small, rfl⟩
        · simp [small] at digit

/-- A decimal number has at least one digit, and only digits. -/
theorem isDigit_of_readDigits {n : Nat} {cs : List Char} (read : readDigits 10 cs = some n) :
    cs ≠ [] ∧ ∀ c ∈ cs, c.isDigit = true := by
  obtain ⟨filled, digits⟩ := digits_of_readDigits read
  refine ⟨filled, fun c member => ?_⟩
  obtain ⟨d, small, value⟩ := digits c member
  exact forall_ascii (p := fun c => (hexValue c).any (· < 10) = true → c.isDigit = true)
    (by decide) (toNat_lt_of_hexValue value) (by simp [value, small])

end Pipewright.Yaml
