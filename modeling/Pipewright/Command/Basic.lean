import Pipewright.Command.Arguments

/-!
# Commands

The five commands and what their arguments say. A few values may stand in the environment instead;
what is missing everywhere, given twice or not understood makes the whole line unusable.
-/
namespace Pipewright

/-- What is to be deployed and how. -/
structure DeployOptions where
  /-- The file. -/
  file : String
  /-- The repository. -/
  repo : Option String
  /-- The token. -/
  token : Option String
  /-- Whether the file is a document already. -/
  isDocument : Bool
  /-- Whether the run is only simulated. -/
  isDryRun : Bool
  /-- Whether issues do not matter. -/
  skipsLint : Bool
  /-- Whether the report is written as JSON. -/
  asJson : Bool
  deriving DecidableEq

/-- A command. -/
inductive Command where
  /-- Writes the document of a block graph. -/
  | generate (input : String) (output : Option String)
  /-- Looks for issues in a block graph. -/
  | validate (input : String)
  /-- Writes the document again whenever the block graph changes. -/
  | watch (input : String) (output : Option String)
  /-- Checks credentials, and the connection if asked to. -/
  | checkCredentials (repo token : String) (remote : Bool)
  /-- Deploys. -/
  | deploy (options : DeployOptions)
  deriving DecidableEq

/-- A command and the address that overrides the one of the settings. -/
structure Invocation where
  /-- The command. -/
  command : Command
  /-- The address. -/
  apiUrl : Option String
  deriving DecidableEq

namespace Invocation

/-- A path, which is never empty. -/
def path? (text : String) : Option String := if text = "" then none else some text

/-- The options that stand before a command and after it. -/
def outerOptions : OptionList := ⟨["api-url"], [], none⟩

/-- The options of a command that reads a file and writes another one. -/
def writingOptions : OptionList := ⟨["api-url", "output"], [], some ('o', "output")⟩

/-- The options of the check of credentials. -/
def checkingOptions : OptionList := ⟨["api-url", "repo", "token"], ["remote"], none⟩

/-- The options of a deployment. -/
def deployOptions : OptionList :=
  ⟨["api-url", "repo", "token"], ["yaml", "dry-run", "skip-lint", "json"], none⟩

/-- The one input of words. -/
def onlyInput (words : Words) : Option String :=
  match words.inputs with
  | [input] => path? input
  | _ => none

/-- The output of words, if they name one. -/
def output (words : Words) : Option (Option String) :=
  match words.value? "output" with
  | none => some none
  | some output => (path? output).map some

/-- The deployment of words. -/
def deployment (env : String → Option String) (words : Words) : Option DeployOptions := do
  let file ← onlyInput words
  let options : DeployOptions :=
    { file
      repo := (words.value? "repo").or (env "TRELLIS_REPO")
      token := (words.value? "token").or (env "GITHUB_TOKEN")
      isDocument := words.hasFlag "yaml"
      isDryRun := words.hasFlag "dry-run"
      skipsLint := words.hasFlag "skip-lint"
      asJson := words.hasFlag "json" }
  if options.isDryRun then
    if options.isDocument then none else some options
  else if options.repo.isSome && options.token.isSome then some options
  else none

/-- The command of a name and its words, and what the words say besides. -/
def commandOf (env : String → Option String) (name : String) (rest : List String) :
    Option (Command × Words) :=
  if name = "generate" then do
    let words ← writingOptions.sort rest .empty
    some (.generate (← onlyInput words) (← output words), words)
  else if name = "validate" then do
    let words ← outerOptions.sort rest .empty
    some (.validate (← onlyInput words), words)
  else if name = "watch" then do
    let words ← writingOptions.sort rest .empty
    some (.watch (← onlyInput words) (← output words), words)
  else if name = "check-credentials" then do
    let words ← checkingOptions.sort rest .empty
    if !words.inputs.isEmpty then none
    let repo ← (words.value? "repo").or (env "TRELLIS_REPO")
    let token ← (words.value? "token").or (env "GITHUB_TOKEN")
    some (.checkCredentials repo token (words.hasFlag "remote"), words)
  else if name = "deploy" then do
    let words ← deployOptions.sort rest .empty
    some (.deploy (← deployment env words), words)
  else none

/-- The invocation of a command line. -/
def parse (env : String → Option String) (line : List String) : Option Invocation := do
  let (outer, name, rest) ← outerOptions.sortToInput line .empty
  let (command, inner) ← commandOf env name rest
  some ⟨command, (inner.value? "api-url").or (outer.value? "api-url")⟩

end Invocation

end Pipewright
