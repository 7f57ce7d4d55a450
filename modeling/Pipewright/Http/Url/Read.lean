import Pipewright.Http.Host
import Pipewright.Http.Url.Path

/-!
# Reading addresses

An address is read as people write it: blanks around it and line ends in it do not count,
backslashes pass for slashes, and what may not stand in it is written with percent signs. A text
without a scheme of its own is read from where it stands, at another address.
-/
namespace Pipewright.Http.Url

/-- The text without control characters and spaces around it, and without tabs and line ends. -/
def tidy (text : List Char) : List Char :=
  let isEdge (c : Char) : Bool := c.toNat ≤ 0x20
  let trimmed := ((text.dropWhile isEdge).reverse.dropWhile isEdge).reverse
  trimmed.filter fun c => !(c == '\t' || c == '\n' || c == '\r')

/-- The scheme and what follows its colon. -/
def splitScheme (text : List Char) : Option (String × List Char) :=
  match text with
  | [] => none
  | first :: _ =>
    if first.isAlpha then
      let isOfScheme (c : Char) : Bool := c.isAlphanum || c == '+' || c == '-' || c == '.'
      match text.dropWhile isOfScheme with
      | ':' :: rest => some (String.ofList ((text.takeWhile isOfScheme).map Char.toLower), rest)
      | _ => none
    else none

/-! ## Users, hosts and ports -/

/-- Whether a character ends the part of an address that names a user, a host and a port. -/
def endsAuthority (kind : Kind) (c : Char) : Bool := isSlash kind c || c == '?' || c == '#'

/-- What stands before the last occurrence of a character, if there is one, and what follows. -/
def splitAtLast (separator : Char) (text : List Char) : Option (List Char × List Char) :=
  match text.reverse.dropWhile (· != separator) with
  | [] => none
  | _ :: before => some (before.reverse, (text.reverse.takeWhile (· != separator)).reverse)

/-- The name and the password of a user, if the text names one, and what follows them. Where there
is nobody before the sign, a host has to follow it, unless the text ends there. -/
def readUser (kind : Kind) (text : List Char) : Option (String × String × List Char) :=
  let here := text.takeWhile fun c => !endsAuthority kind c
  let beyond := text.dropWhile fun c => !endsAuthority kind c
  let encode (part : List Char) : String := String.ofList (percentEncode isEncodedInUser part)
  match splitAtLast '@' here with
  | none => some ("", "", text)
  | some (user, rest) =>
    if user.isEmpty && rest.isEmpty && !beyond.isEmpty then none
    else
      some (encode (user.takeWhile (· != ':')), encode ((user.dropWhile (· != ':')).drop 1),
        rest ++ beyond)

/-- The text of a host, up to a colon outside brackets or the end of its part, and what follows. -/
def splitHost (kind : Kind) (inBrackets : Bool) : List Char → List Char × List Char
  | [] => ([], [])
  | c :: rest =>
    if (c == ':' && !inBrackets) || endsAuthority kind c then ([], c :: rest)
    else
      let (host, rest) := splitHost kind (c == '[' || (inBrackets && c != ']')) rest
      (c :: host, rest)

/-- The port after a colon, and what follows it; no digits are no port. -/
def readPort (scheme : String) (text : List Char) : Option (Option Nat × List Char) :=
  let digits := text.takeWhile Char.isDigit
  let rest := text.dropWhile Char.isDigit
  let n := Nat.ofDigitChars 10 digits 0
  if rest.head?.all (endsAuthority .web) && n < Nat.pow 2 16 then
    some (if digits.isEmpty || usualPort scheme = some n then none else some n, rest)
  else none

/-- The host and the port, and what follows them. -/
def readHost (scheme : String) (text : List Char) : Option (String × Option Nat × List Char) := do
  let kind := kindOf scheme
  let (host, rest) := splitHost kind false text
  let host ← if kind = .other then Host.parseOther host else Host.parse host
  match rest with
  | ':' :: rest =>
    if host.isEmpty then none
    else
      let (port, rest) ← readPort scheme rest
      some (String.ofList host, port, rest)
  | rest => some (String.ofList host, none, rest)

/-! ## Queries and fragments -/

/-- The path, the query and the fragment of what follows a host or a scheme. -/
def splitTail (text : List Char) : List Char × Option (List Char) × Option (List Char) :=
  let (text, fragment) :=
    match text.dropWhile (· != '#') with
    | [] => (text, none)
    | _ :: fragment => (text.takeWhile (· != '#'), some fragment)
  match text.dropWhile (· != '?') with
  | [] => (text, none, fragment)
  | _ :: query => (text.takeWhile (· != '?'), some query, fragment)

/-- The written form of a query. -/
def writeQuery (kind : Kind) (query : List Char) : String :=
  let isEncoded (c : Char) : Bool := isEncodedInQuery c || (kind != .other && c == '\'')
  String.ofList (percentEncode isEncoded query)

/-- The written form of a fragment. -/
def writeFragment (fragment : List Char) : String :=
  String.ofList (percentEncode isEncodedInFragment fragment)

/-- An address with the path, the query and the fragment that a text gives. -/
def withTail (url : Url) (write : List Char → String) (text : List Char) : Url :=
  let (path, query, fragment) := splitTail text
  { url with
    path := write path
    query := query.map (writeQuery (kindOf url.scheme))
    fragment := fragment.map writeFragment }

/-! ## Whole addresses -/

/-- An address of a scheme and nothing else. -/
def ofScheme (scheme : String) (host : Option String) : Url :=
  ⟨scheme, "", "", host, none, "", none, none⟩

/-- Reads what follows the two slashes before a host. -/
def readBeyondSlashes (scheme : String) (text : List Char) : Option Url := do
  let kind := kindOf scheme
  let (username, password, rest) ← readUser kind text
  let (host, port, rest) ← readHost scheme rest
  if host = "" && !(username = "" && password = "") then none
  let url : Url := ⟨scheme, username, password, some host, port, "", none, none⟩
  some (url.withTail (writePath kind) rest)

/-- Reads what follows the scheme of a file: a host after two slashes, unless it is this computer or
the name of a drive, then a path. A drive at the start of the path takes the place of the host. -/
def readFile (text : List Char) : Option Url :=
  let here (write : List Char → String) (text : List Char) : Url :=
    (ofScheme "file" (some "")).withTail write text
  match text with
  | a :: b :: rest =>
    if isSlash .file a && isSlash .file b then
      let host := rest.takeWhile fun c => !endsAuthority .file c
      if host.isEmpty || isDrive host then some (here (extendPath .file []) rest)
      else do
        let name := String.ofList (← Host.parse host)
        let rest := rest.drop host.length
        if name = "localhost" then some (here (extendPath .file []) rest)
        else
          let url := (ofScheme "file" (some name)).withTail (writePath .file) rest
          some (if startsWithDrive url.path then { url with host := some "" } else url)
    else some (here (writePath .file) text)
  | _ => some (here (writePath .file) text)

/-- Reads what follows a scheme that is neither of the web nor of files. -/
def readOther (scheme : String) (text : List Char) : Option Url :=
  match text with
  | '/' :: '/' :: rest => readBeyondSlashes scheme rest
  | '/' :: _ => some ((ofScheme scheme none).withTail (writePath .other) text)
  | _ => some ((ofScheme scheme none).withTail writeOpaquePath text)

/-- Reads a text without a scheme at an address of the web. -/
def readFrom (base : Url) (text : List Char) : Option Url :=
  let kind := kindOf base.scheme
  match text with
  | [] => some { base with fragment := none }
  | '#' :: fragment => some { base with fragment := some (writeFragment fragment) }
  | '?' :: _ => some (base.withTail (fun _ => base.path) text)
  | '/' :: '/' :: rest => readBeyondSlashes base.scheme rest
  | first :: rest =>
    if isSlash kind first then
      if rest.head?.any (isSlash kind) then
        readBeyondSlashes base.scheme (rest.dropWhile (isSlash kind))
      else some (base.withTail (extendPath kind []) rest)
    else some (base.withTail (extendPath kind (parentSegments base.path)) text)

/-- Whether a text starts with two slashes. -/
def startsWithSlashes : List Char → Bool
  | a :: b :: _ => isSlash .web a && isSlash .web b
  | _ => false

/-- Reads what follows a scheme of the web. At an address with the same scheme, the scheme means
nothing unless two slashes follow it. -/
def readWeb (base : Option Url) (scheme : String) (text : List Char) : Option Url :=
  match base.filter fun base => base.scheme = scheme && !startsWithSlashes text with
  | some base => readFrom base text
  | none => readBeyondSlashes scheme (text.dropWhile (isSlash .web))

/-- Reads an address, from where it stands if that is known to be an address of the web. -/
def read (base : Option Url) (text : String) : Option Url :=
  let text := tidy text.toList
  match splitScheme text with
  | none => base.bind fun base => readFrom base text
  | some (scheme, rest) =>
    match kindOf scheme with
    | .web => readWeb base scheme rest
    | .file => readFile rest
    | .other => readOther scheme rest

/-- Reads an address on its own. -/
def parse (text : String) : Option Url := read none text

/-- The address that a text names at an address of the web. -/
def resolve (base : Url) (text : String) : Option Url := read (some base) text

end Pipewright.Http.Url
