/-!
# Session identifiers

A session is identified by 128 bits, written as 32 hexadecimal digits in groups of 8, 4, 4, 4
and 12. They are read in that form, without the hyphens, in braces, or after a scheme name, and
digits in either case.
-/
namespace Pipewright

/-- An identifier of a session. -/
structure SessionId where
  /-- Its hexadecimal digits, the most significant first. -/
  digits : List (Fin 16)
  /-- There are 32 of them. -/
  length_digits : digits.length = 32
  deriving DecidableEq

namespace SessionId

/-- A hexadecimal digit as a character, in lower case. -/
def digitChar (d : Fin 16) : Char :=
  if d.val < 10 then Char.ofNat (48 + d.val) else Char.ofNat (87 + d.val)

/-- The hexadecimal digit that a character is, in either case. -/
def digitOfChar (c : Char) : Option (Fin 16) :=
  if '0' ≤ c ∧ c ≤ '9' then some (Fin.ofNat 16 (c.toNat - 48))
  else if 'a' ≤ c ∧ c ≤ 'f' then some (Fin.ofNat 16 (c.toNat - 87))
  else if 'A' ≤ c ∧ c ≤ 'F' then some (Fin.ofNat 16 (c.toNat - 55))
  else none

/-- The lengths of the groups. -/
def groups : List Nat := [8, 4, 4, 4, 12]

/-- Characters in groups of given lengths with hyphens between them. -/
def hyphenate : List Nat → List Char → List Char
  | [], cs => cs
  | [_], cs => cs
  | n :: lengths, cs => cs.take n ++ '-' :: hyphenate lengths (cs.drop n)

/-- Takes the hyphens out from between groups of given lengths. -/
def unhyphenate : List Nat → List Char → Option (List Char)
  | [], cs => some cs
  | [_], cs => some cs
  | n :: lengths, cs =>
    match cs.drop n with
    | '-' :: rest => (unhyphenate lengths rest).map (cs.take n ++ ·)
    | _ => none

/-- The identifier of random bits: those that tell its kind are not random. -/
def ofRandom (bits : Nat) : SessionId where
  digits := (List.range 32).map fun i =>
    let digit := bits / Nat.pow 16 i % 16
    if i = 12 then 4 else if i = 16 then Fin.ofNat 16 (8 + digit % 4) else Fin.ofNat 16 digit
  length_digits := by simp

/-- The identifier of 32 digits. -/
def ofDigits (cs : List Char) : Option SessionId :=
  match cs.mapM digitOfChar with
  | some digits => if h : digits.length = 32 then some ⟨digits, h⟩ else none
  | none => none

/-- The identifier of grouped digits. -/
def ofGroups (cs : List Char) : Option SessionId :=
  if cs.length = 36 then (unhyphenate groups cs).bind ofDigits else none

/-- Reads an identifier in any of its forms. -/
def parse (text : String) : Option SessionId :=
  let cs := text.toList
  if cs.length = 32 then ofDigits cs
  else
    match cs with
    | '\x7b' :: rest => if rest.getLast? = some '\x7d' then ofGroups rest.dropLast else none
    | 'u' :: 'r' :: 'n' :: ':' :: 'u' :: 'u' :: 'i' :: 'd' :: ':' :: rest => ofGroups rest
    | cs => ofGroups cs

/-- The text of an identifier. -/
def text (id : SessionId) : String :=
  String.ofList (hyphenate groups (id.digits.map digitChar))

end SessionId

end Pipewright
