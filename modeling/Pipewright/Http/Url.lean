import Pipewright.Http.Percent

/-!
# Addresses

An address in parts. Every part is in its written form, so an address has one text. A scheme of the
web gives an address a host and lets backslashes pass for slashes; the address of a file may do
without the host; in any other scheme the path need not even start with a slash.
-/
namespace Pipewright.Http

/-- An address in parts, each in its written form. -/
structure Url where
  /-- The scheme, in lower case. -/
  scheme : String
  /-- The name of a user. -/
  username : String
  /-- The password of a user. -/
  password : String
  /-- The host; nothing when the address has none, and empty when it only has room for one. -/
  host : Option String
  /-- The port, unless it is the usual one of the scheme. -/
  port : Option Nat
  /-- The path. -/
  path : String
  /-- What follows the question mark. -/
  query : Option String
  /-- What follows the number sign. -/
  fragment : Option String
  deriving DecidableEq

namespace Url

/-- The kinds of schemes that are read differently. -/
inductive Kind where
  /-- A scheme of the web. -/
  | web
  /-- The scheme of files. -/
  | file
  /-- Any other scheme. -/
  | other
  deriving DecidableEq

/-- The usual port of a scheme of the web. -/
def usualPort (scheme : String) : Option Nat :=
  if scheme = "http" || scheme = "ws" then some 80
  else if scheme = "https" || scheme = "wss" then some 443
  else if scheme = "ftp" then some 21
  else none

/-- The kind of a scheme. -/
def kindOf (scheme : String) : Kind :=
  if scheme = "file" then .file else if (usualPort scheme).isSome then .web else .other

/-! ## Text -/

/-- The host and the port, as far as there are any. -/
def hostText (url : Url) : String :=
  url.host.getD "" ++
    match url.port with
    | some port => ":" ++ toString port
    | none => ""

/-- The user and what separates it from the host. -/
def userText (url : Url) : String :=
  if url.username = "" && url.password = "" then ""
  else url.username ++ (if url.password = "" then "" else ":" ++ url.password) ++ "@"

/-- The query with its question mark. -/
def queryText (url : Url) : String :=
  match url.query with
  | some query => "?" ++ query
  | none => ""

/-- What a request for an address asks the host for: the path and the query. -/
def target (url : Url) : String := url.path ++ url.queryText

/-- The text of an address. -/
def text (url : Url) : String :=
  let authority :=
    match url.host with
    | some _ => "//" ++ url.userText ++ url.hostText
    | none => if url.path.toList.take 2 = ['/', '/'] then "/." else ""
  let fragment :=
    match url.fragment with
    | some fragment => "#" ++ fragment
    | none => ""
  url.scheme ++ ":" ++ authority ++ url.path ++ url.queryText ++ fragment

/-! ## Parts -/

/-- Whether there is a host. -/
def hasHost (url : Url) : Bool :=
  match url.host with
  | some host => host != ""
  | none => false

/-- The port, be it the usual one. -/
def effectivePort (url : Url) : Option Nat := url.port.or (usualPort url.scheme)

/-- Whether requests can be sent under the scheme of an address. -/
def isOfService (url : Url) : Bool := url.scheme = "http" || url.scheme = "https"

/-- Whether two addresses are on one host and port. -/
def isBeside (a b : Url) : Bool := a.host == b.host && a.effectivePort == b.effectivePort

/-- Whether the bytes that an encoded text stands for are text themselves. -/
def standsForText (encoded : String) : Bool :=
  (letters (percentDecode encoded.toList)).all fun
    | .char _ => true
    | .stray _ => false

/-- The address without its user, who is no part of where it leads; a user that is not text, or no
more than a password that is not, stays. -/
def withoutUser (url : Url) : Url :=
  if standsForText url.username && (url.username != "" || standsForText url.password) then
    { url with username := "", password := "" }
  else url

/-- The address with another field at the end of its query. -/
def withField (url : Url) (name value : String) : Url :=
  let field := String.ofList (formEncode name.toList ++ '=' :: formEncode value.toList)
  { url with
    query := some (
      match url.query with
      | none => field
      | some "" => field
      | some query => query ++ "&" ++ field) }

end Url

end Pipewright.Http
