import Pipewright.Text.Blank

/-!
# Settings

Where the service is, where the document of a workflow goes, and how long to wait. Settings may
come from the environment, where a number that cannot be read counts as absent.
-/
namespace Pipewright

/-- The settings of deployments; delays are in milliseconds. -/
structure Settings where
  /-- The address of the service's interface. -/
  apiUrl : String := "https://api.github.com"
  /-- The address of the service's pages. -/
  webUrl : String := "https://github.com"
  /-- The path of the document in the repository. -/
  workflowPath : String := ".github/workflows/visual-cicd-workflow.yml"
  /-- The message of the commit that adds the document. -/
  commitMessage : String := "Add GitHub Actions workflow via Visual CI/CD"
  /-- How long the service is given to notice the document. -/
  registrationDelay : Nat := 5000
  /-- How long to wait before each look at the run. -/
  pollInterval : Nat := 5000
  /-- How often to look at the run. -/
  maxPollAttempts : Nat := 30
  deriving DecidableEq

/-- Why settings are refused. -/
inductive SettingsFault where
  /-- An address is empty. -/
  | emptyUrl (name : String)
  /-- An address has the wrong scheme. -/
  | badUrlScheme (name : String)
  /-- The path of the document is blank. -/
  | emptyWorkflowPath
  /-- The run would never be looked at. -/
  | noPollAttempts
  deriving DecidableEq

/-- The wording of a refusal. -/
def SettingsFault.message : SettingsFault → String
  | emptyUrl name => name ++ " cannot be empty"
  | badUrlScheme name => name ++ " must start with http:// or https://"
  | emptyWorkflowPath => "workflow_path cannot be empty"
  | noPollAttempts => "max_poll_attempts must be greater than 0"

namespace Settings

/-- Whether a text starts with another one. -/
def startsWith (start text : String) : Bool := start.toList.isPrefixOf text.toList

/-- Checks an address. -/
def checkUrl (name url : String) : Except SettingsFault Unit :=
  if url = "" then .error (.emptyUrl name)
  else if startsWith "http://" url || startsWith "https://" url then .ok ()
  else .error (.badUrlScheme name)

/-- Checks settings; of several faults the first in the order of the fields counts. -/
def check (s : Settings) : Except SettingsFault Unit := do
  checkUrl "api_url" s.apiUrl
  checkUrl "web_url" s.webUrl
  if isBlank s.workflowPath then .error .emptyWorkflowPath
  if s.maxPollAttempts = 0 then .error .noPollAttempts

/-- Reads a natural number below a bound: digits after at most one plus sign. -/
def readNatural (bound : Nat) (text : String) : Option Nat :=
  let digits :=
    match text.toList with
    | '+' :: digits => digits
    | digits => digits
  if digits.isEmpty || !digits.all Char.isDigit then none
  else
    let n := Nat.ofDigitChars 10 digits 0
    if n < bound then some n else none

/-- The settings that an environment gives, before they are checked. -/
def fromEnvironment (env : String → Option String) : Settings :=
  let defaults : Settings := {}
  { defaults with
    apiUrl := (env "TRELLIS_API_URL").getD defaults.apiUrl
    webUrl := (env "TRELLIS_WEB_URL").getD defaults.webUrl
    workflowPath := (env "TRELLIS_WORKFLOW_PATH").getD defaults.workflowPath
    registrationDelay :=
      (((env "TRELLIS_REGISTRATION_DELAY").bind (readNatural (Nat.pow 2 64))).map (1000 * ·)).getD
        defaults.registrationDelay
    pollInterval :=
      (((env "TRELLIS_POLL_INTERVAL").bind (readNatural (Nat.pow 2 64))).map (1000 * ·)).getD
        defaults.pollInterval
    maxPollAttempts :=
      ((env "TRELLIS_MAX_POLL_ATTEMPTS").bind (readNatural (Nat.pow 2 32))).getD
        defaults.maxPollAttempts }

/-- The settings that an environment gives. -/
def ofEnvironment (env : String → Option String) : Except SettingsFault Settings := do
  let s := fromEnvironment env
  s.check
  .ok s

/-- The settings with another address of the service's interface. -/
def withApiUrl (s : Settings) (url : String) : Settings := { s with apiUrl := url }

/-- The text without the slashes at its end. -/
def trimSlashes (text : String) : String :=
  String.ofList (text.toList.reverse.dropWhile (· == '/')).reverse

/-- The page of the runs of a repository. -/
def actionsUrl (s : Settings) (owner name : String) : String :=
  trimSlashes s.webUrl ++ "/" ++ owner ++ "/" ++ name ++ "/actions"

/-- The page of one run. -/
def runUrl (s : Settings) (owner name : String) (run : UInt64) : String :=
  s.actionsUrl owner name ++ "/runs/" ++ toString run.toNat

end Settings

end Pipewright
