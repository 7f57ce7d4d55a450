import Pipewright.Text.Blank
import Pipewright.Text.Debug

/-!
# Credentials

A token and a repository, checked without asking the service. A token of the newer kind starts
with one of two four-letter marks; a classic one is letters and digits only. A repository is an
owner and a name with one slash between them. Values of these types have passed the checks, and
every refusal has one reason: the first that applies in the order of `Slug.parse` and `checkToken`.
-/
namespace Pipewright

/-- Why credentials are refused. -/
inductive CredentialFault where
  /-- There is no token. -/
  | missingToken
  /-- The token has too few characters. -/
  | tokenTooShort (length : Nat)
  /-- The token has too many characters. -/
  | tokenTooLong (length : Nat)
  /-- The token has a character that no token has. -/
  | tokenFormat
  /-- There is no repository. -/
  | missingRepository
  /-- The repository has no slash, or more than one. -/
  | repositoryFormat
  /-- Nothing but blanks stands before the slash. -/
  | emptyOwner
  /-- What stands before the slash is no owner. -/
  | invalidOwner
  /-- Nothing but blanks stands after the slash. -/
  | emptyName
  /-- What stands after the slash is no name. -/
  | invalidName
  deriving DecidableEq

/-- The wording of a refusal. -/
def CredentialFault.message : CredentialFault → String
  | missingToken => "API token is required"
  | tokenTooShort length =>
    "API token is too short (" ++ toString length ++ " characters); expected a ghp_/ghs_ token "
      ++ "or a classic token of at least 40 characters"
  | tokenTooLong length => "API token is too long (" ++ toString length ++ " characters)"
  | tokenFormat =>
    "API token appears to be in an invalid format. Expected a GitHub Personal Access Token"
  | missingRepository => "Repository is required"
  | repositoryFormat => "Repository must be in format 'owner/repo'"
  | emptyOwner => "Repository owner name cannot be empty"
  | invalidOwner => "Repository owner name contains invalid characters"
  | emptyName => "Repository name cannot be empty"
  | invalidName => "Repository name contains invalid characters"

/-- Whether a character is an ASCII letter or digit. -/
def isWordChar (c : Char) : Bool :=
  ('a' ≤ c && c ≤ 'z') || ('A' ≤ c && c ≤ 'Z') || ('0' ≤ c && c ≤ '9')

/-- The most characters a token has. -/
def maxTokenLength : Nat := 255

/-- The fewest characters a classic token has. -/
def minClassicLength : Nat := 40

/-- The fewest characters that follow the mark of a token. -/
def minMarkedLength : Nat := 36

/-- The characters after the mark of a token, if it has one. -/
def markedBody? : List Char → Option (List Char)
  | 'g' :: 'h' :: 'p' :: '_' :: body => some body
  | 'g' :: 'h' :: 's' :: '_' :: body => some body
  | _ => none

/-- Checks the form of a token. -/
def checkToken (token : String) : Except CredentialFault Unit :=
  let cs := token.toList
  if cs.isEmpty then .error .missingToken
  else if cs.length > maxTokenLength then .error (.tokenTooLong cs.length)
  else
    match markedBody? cs with
    | some body =>
      if body.length < minMarkedLength then .error (.tokenTooShort cs.length)
      else if body.all fun c => isWordChar c || c == '_' then .ok ()
      else .error .tokenFormat
    | none =>
      if cs.length < minClassicLength then .error (.tokenTooShort cs.length)
      else if cs.all isWordChar then .ok ()
      else .error .tokenFormat

/-- Whether characters name an owner: a letter or digit, then letters, digits and hyphens. -/
def isOwner : List Char → Bool
  | [] => false
  | first :: rest => isWordChar first && rest.all fun c => isWordChar c || c == '-'

/-- Whether characters name a repository: letters, digits, points, underscores and hyphens. -/
def isRepositoryName (cs : List Char) : Bool :=
  !cs.isEmpty && cs.all fun c => isWordChar c || c == '.' || c == '_' || c == '-'

/-- An owner and the name of a repository of theirs. -/
structure Slug where
  /-- The owner. -/
  owner : String
  /-- The name. -/
  name : String
  /-- The owner is one. -/
  owner_valid : isOwner owner.toList = true
  /-- The name is one. -/
  name_valid : isRepositoryName name.toList = true

namespace Slug

/-- The repository in the form in which it is given: owner, slash, name. -/
def text (slug : Slug) : String := slug.owner ++ "/" ++ slug.name

/-- Checks what stands before and after the slash. -/
def ofParts (owner name : String) : Except CredentialFault Slug :=
  if isBlank owner then .error .emptyOwner
  else if owner_valid : isOwner owner.toList = true then
    if isBlank name then .error .emptyName
    else if name_valid : isRepositoryName name.toList = true then
      .ok ⟨owner, name, owner_valid, name_valid⟩
    else .error .invalidName
  else .error .invalidOwner

/-- Reads a repository from a text. -/
def parse (text : String) : Except CredentialFault Slug :=
  let cs := text.toList
  if cs.isEmpty then .error .missingRepository
  else
    match cs.dropWhile (· != '/') with
    | [] => .error .repositoryFormat
    | _ :: name =>
      if '/' ∈ name then .error .repositoryFormat
      else ofParts (String.ofList (cs.takeWhile (· != '/'))) (String.ofList name)

end Slug

/-- A token and a repository that have passed the checks. -/
structure Credentials where
  /-- The token. -/
  token : String
  /-- The repository. -/
  repo : Slug
  /-- The token has passed. -/
  token_valid : checkToken token = .ok ()

namespace Credentials

/-- Checks a token, then a repository. -/
def check (token repo : String) : Except CredentialFault Credentials :=
  match token_valid : checkToken token with
  | .error fault => .error fault
  | .ok () =>
    match Slug.parse repo with
    | .error fault => .error fault
    | .ok slug => .ok ⟨token, slug, token_valid⟩

/-- The credentials as they may be shown: the repository, and nothing of the token. -/
def redacted (c : Credentials) : String :=
  "Credentials \x7b token: \"<redacted>\", repo: RepoSlug \x7b owner: " ++ debugText c.repo.owner
    ++ ", name: " ++ debugText c.repo.name ++ " \x7d \x7d"

end Credentials

end Pipewright
