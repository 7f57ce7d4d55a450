import Pipewright.Http.Url.Read

/-!
# Places

A request names the place it is for more strictly than people write addresses: the host has to be
there and hold plain characters, and a fragment is no part of it. An address without a host names
a place only if all of it could stand where a host stands.
-/
namespace Pipewright.Http.Url

/-- The most bytes of an address that names a place. -/
def maxLength : Nat := 65534

/-- The most characters of its scheme. -/
def maxSchemeLength : Nat := 64

/-- What has been seen of the text between a scheme and a path. -/
structure AuthorityState where
  /-- The colons since the last sign of a user or closing bracket. -/
  colons : Nat
  /-- Whether a bracket has been opened. -/
  opened : Bool
  /-- Whether it has been closed. -/
  closed : Bool
  /-- Whether there is a percent sign since the last sign of a user or closing bracket. -/
  percent : Bool
  /-- Whether the last character is the sign of a user. -/
  afterUser : Bool

/-- Whether a character may stand anywhere between a scheme and a path. -/
def isPlainInAuthority (c : Char) : Bool :=
  c.isAlphanum || c == '!' || c == '$' || c == '&' || c == '\'' || c == '(' || c == ')' || c == '*'
    || c == '+' || c == ',' || c == '-' || c == '.' || c == ';' || c == '=' || c == '_' || c == '~'

/-- Takes in a character, if it may stand there. -/
def AuthorityState.take (s : AuthorityState) (c : Char) : Option AuthorityState :=
  if c = ':' then
    if s.colons < 8 then some { s with colons := s.colons + 1, afterUser := false } else none
  else if c = '[' then
    if s.percent || s.opened then none else some { s with opened := true, afterUser := false }
  else if c = ']' then
    if s.opened && !s.closed then some ⟨0, true, true, false, false⟩ else none
  else if c = '@' then some { s with colons := 0, percent := false, afterUser := true }
  else if c = '%' then some { s with percent := true, afterUser := false }
  else if isPlainInAuthority c then some { s with afterUser := false }
  else none

/-- Whether a text could stand between a scheme and a path. -/
def isAuthority (text : List Char) : Bool :=
  match text.foldlM AuthorityState.take ⟨0, false, false, false, false⟩ with
  | none => false
  | some s => s.opened == s.closed && s.colons ≤ 1 && !s.percent && !s.afterUser

/-- The place that a request for an address names, as an address, if it names one. -/
def place? (url : Url) : Option Url :=
  let place := { url with fragment := none }
  if url.text.utf8ByteSize > maxLength || url.scheme.length > maxSchemeLength then none
  else if url.hasHost then
    if isAuthority (url.userText ++ url.hostText).toList then
      some (if url.path = "" then { place with path := "/" } else place)
    else none
  else if url.host.isNone && url.fragment.isNone && isAuthority url.text.toList then some url
  else none

end Pipewright.Http.Url
