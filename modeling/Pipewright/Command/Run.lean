import Pipewright.Command.Deploy

/-!
# Running commands

What a command line does, from its words to its exit status: 0 when the command succeeds, 1 when it
complains, 2 when the line cannot be understood.
-/
namespace Pipewright

namespace Work

/-- Writes the document of a block graph. -/
def generate (styled : Bool) (input : String) (output : Option String) : Work Unit := do
  render styled input output
  match output with
  | some path => note (Style.green.paint styled "Wrote" ++ " " ++ path)
  | none => pure ()

/-- Looks for issues in a block graph. -/
def validate (styled : Bool) (input : String) : Work Unit := do
  match ← loadPipeline input with
  | none => print (Style.yellow.paint styled "No pipeline block found.")
  | some pipeline =>
    let issues := pipeline.issues
    if issues.isEmpty then
      print (Style.green.paint styled "✓" ++ " " ++ Style.bold.paint styled pipeline.name
        ++ " (" ++ toString pipeline.jobs.length ++ " job(s))")
    else
      tellIssues (errorLabel styled) issues
      complain (toString issues.length ++ " issue(s) found in " ++ input)

/-- Writes the document again; a complaint is told and ends nothing. -/
def regenerate (styled : Bool) (input : String) (output : Option String) : Work Unit := do
  match ← ExceptT.lift (render styled input output).run with
  | .ok () => note (Style.green.paint styled "Regenerated" ++ " " ++ output.getD "stdout")
  | .error complaint => note (errorLabel styled ++ " " ++ complaint.line)

/-- Writes the document again each time the changes of the block graph have settled, at most that
many times. -/
def follow (styled : Bool) (input : String) (output : Option String) : Nat → Work Unit
  | 0 => pure ()
  | rounds + 1 => do
    let changed ← deed (.settle input)
    if changed then
      regenerate styled input output
      follow styled input output rounds

/-- More rounds than any watch goes on for. -/
def maxRounds : Nat := Nat.pow 10 12

/-- Writes the document whenever the block graph changes. -/
def watch (styled : Bool) (input : String) (output : Option String) : Work Unit := do
  withFile ("Failed to resolve " ++ input) (← deed (.resolve input))
  note (Style.bold.paint styled "Watching" ++ " " ++ input ++ " (Ctrl-C to stop)")
  regenerate styled input output
  follow styled input output maxRounds
  note (Style.dimmed.paint styled "Stopped watching.")

/-- Does the work of an invocation. -/
def ofInvocation (env : String → Option String) (styled : Bool) (i : Invocation) : Work Unit :=
  match i.command with
  | .generate input output => generate styled input output
  | .validate input => validate styled input
  | .watch input output => watch styled input output
  | .checkCredentials repo token remote =>
    checkCredentials env styled i.apiUrl repo token remote
  | .deploy options => deploy env styled i.apiUrl options

end Work

/-- How a command is used. -/
def usage : String :=
  "Usage: trellis [--api-url <API_URL>] <COMMAND>\n\n"
    ++ "Commands:\n"
    ++ "  generate <INPUT> [-o <OUTPUT>]\n"
    ++ "  validate <INPUT>\n"
    ++ "  watch <INPUT> [-o <OUTPUT>]\n"
    ++ "  check-credentials --repo <REPO> --token <TOKEN> [--remote]\n"
    ++ "  deploy <FILE> --repo <REPO> --token <TOKEN> [--yaml | --dry-run] [--skip-lint] [--json]\n"

/-- Runs a command line and ends with its exit status. -/
def runCommand (env : String → Option String) (onTerminal : Bool) (line : List String) :
    Deeds Nat := do
  match Invocation.parse env line with
  | none =>
    let _ ← Dialogue.question (Deed.note usage)
    pure 2
  | some invocation =>
    match ← (Work.ofInvocation env (isStyled env onTerminal) invocation).run with
    | .ok () => pure 0
    | .error complaint =>
      let _ ← Dialogue.question (Deed.note (complaint.report ++ "\n"))
      pure 1

end Pipewright
