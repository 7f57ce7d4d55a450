import Pipewright.Command.Attend
import Pipewright.Command.Basic
import Pipewright.Command.Source
import Pipewright.Deployment.Simulation

/-!
# The commands that go to the service

Checking credentials, and deploying: the document is made or read, its issues stop it unless they
do not matter, a session is attended, and its report decides how the command ends.
-/
namespace Pipewright

/-- The settings of a command: those of the environment, with another address if one is given. -/
def commandSettings (env : String → Option String) (apiUrl : Option String) :
    Except SettingsFault Settings := do
  let s ← Settings.ofEnvironment env
  match apiUrl with
  | none => .ok s
  | some url =>
    let s := s.withApiUrl url
    s.check
    .ok s

namespace Work

/-- The settings of a command; a refusal of them ends it. -/
def settings (env : String → Option String) (apiUrl : Option String) : Work Settings := do
  match commandSettings env apiUrl with
  | .ok s => pure s
  | .error fault => complain fault.message

/-- Checks credentials, and the connection if asked to. -/
def checkCredentials (env : String → Option String) (styled : Bool) (apiUrl : Option String)
    (repo token : String) (remote : Bool) : Work Unit := do
  let mark := Style.green.paint styled "✓"
  match Credentials.check token repo with
  | .error fault => complain fault.message
  | .ok credentials =>
    print (mark ++ " Token and repository format look valid for "
      ++ Style.bold.paint styled credentials.repo.text)
    if remote then
      let s ← settings env apiUrl
      let view : View := ⟨styled, false, .ofUrl s.apiUrl⟩
      let (result, _) ← ExceptT.lift ((Deployment.checkConnection token repo).attend view .start)
      match result with
      | .error fault => complain fault.message
      | .ok repository =>
        print (mark ++ " Connected to "
          ++ Style.bold.paint styled (repository.fullName.getD credentials.repo.text)
          ++ " (default branch: " ++ Style.cyan.paint styled repository.defaultBranch ++ ")")

/-- What a deployment starts from: the document and the names of the jobs. -/
structure Prepared where
  /-- The document. -/
  workflow : String
  /-- The names of the jobs in order. -/
  jobs : List String
  deriving DecidableEq

/-- The names of the jobs of a pipeline, if there is one. -/
def jobNames (pipeline : Option Pipeline) : List String :=
  match pipeline with
  | some pipeline => pipeline.jobs.map Job.name
  | none => []

/-- Stops at issues, unless they do not matter. -/
def checkIssues (styled skipsLint : Bool) (issues : List Issue) : Work Unit := do
  if issues.isEmpty then pure ()
  else if skipsLint then tellIssues (warningLabel styled) issues
  else
    tellIssues (errorLabel styled) issues
    complain (toString issues.length ++ " lint issue(s) found; fix them or pass --skip-lint")

/-- Makes or reads the document. -/
def prepare (styled : Bool) (options : DeployOptions) : Work Prepared := do
  if options.isDocument then
    let source ← readSource options.file
    pure ⟨source, []⟩
  else
    let pipeline ← loadPipeline options.file
    checkIssues styled options.skipsLint (issuesOf pipeline)
    pure ⟨Pipeline.document pipeline, jobNames pipeline⟩

/-- The session of a deployment, and the client that makes its calls. -/
def chooseSession (env : String → Option String) (apiUrl : Option String)
    (options : DeployOptions) (prepared : Prepared) : Work (Session Outcome × Client) := do
  if options.isDryRun then pure (Simulation.session prepared.jobs, .ofUrl "")
  else
    match options.token, options.repo with
    | some token, some repo => do
      let s ← settings env apiUrl
      pure (Deployment.session s token repo prepared.workflow, .ofUrl s.apiUrl)
    | _, _ => complain "--repo and --token are required unless --dry-run is given"

/-- The style of an outcome. -/
def outcomeStyle : Outcome → Style
  | .success => .boldGreen
  | .failure => .boldRed
  | .indeterminate => .boldYellow

/-- Prints what a session came to. -/
def summarize (styled : Bool) (report : Report) : Work Unit := do
  let label (text : String) : String := Style.bold.paint styled text
  print ""
  print (label "Outcome:" ++ " " ++ (outcomeStyle report.outcome).paint styled report.outcome.name)
  print (label "Session:" ++ " " ++ report.sessionId.text)
  match report.runUrl with
  | some url => print (label "Run:" ++ " " ++ Style.cyan.paint styled url)
  | none => pure ()

/-- Ends a deployment by its outcome. -/
def conclude : Outcome → Work Unit
  | .success => pure ()
  | .failure => complain "Deployment failed"
  | .indeterminate => complain "Deployment result is unknown; check the Actions tab"

/-- Deploys. -/
def deploy (env : String → Option String) (styled : Bool) (apiUrl : Option String)
    (options : DeployOptions) : Work Unit := do
  let prepared ← prepare styled options
  let (session, client) ← chooseSession env apiUrl options prepared
  let report ← ExceptT.lift (session.report ⟨styled, options.asJson, client⟩)
  if options.asJson then print report.toJson.toPrettyText else summarize styled report
  conclude report.outcome

end Work

end Pipewright
