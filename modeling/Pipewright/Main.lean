import Pipewright.Command.Run
import Pipewright.Command.Settle
import Std.Time

/-!
# The program

Does the deeds of a command in the world. Requests are sent by nothing here, so none is answered;
changes of a file are noticed by looking at it again and again.
-/
namespace Pipewright.World

/-- The variables that commands look at. -/
def variableNames : List String :=
  ["TRELLIS_API_URL", "TRELLIS_WEB_URL", "TRELLIS_WORKFLOW_PATH",
    "TRELLIS_REGISTRATION_DELAY", "TRELLIS_POLL_INTERVAL", "TRELLIS_MAX_POLL_ATTEMPTS",
    "TRELLIS_REPO", "GITHUB_TOKEN", "CLICOLOR", "CLICOLOR_FORCE", "NO_COLOR"]

/-- The variables that are set, with their values. -/
def environment : IO (List (String × String)) := do
  variableNames.filterMapM fun name => do
    let value ← IO.getEnv name
    pure (value.map fun value => (name, value))

/-- Whether a code of the system is that number, whose sign some calls turn. -/
def isCode (number code : UInt32) : Bool := code = number || code = 0 - number

/-- The fault of a file that the system tells of. -/
def faultOf (error : IO.Error) : FileFault :=
  match error with
  | .noFileOrDirectory _ _ _ => .missing
  | .permissionDenied _ _ _ => .denied
  | .inappropriateType _ code _ => if isCode 20 code then .notDirectory else .directory
  | .invalidArgument _ code _ => if isCode 36 code then .longName else .other (toString error)
  | other => .other (toString other)

/-- The text of bytes. -/
def textOf (bytes : ByteArray) : Except FileFault String :=
  match String.fromUTF8? bytes with
  | some text => .ok text
  | none => .error .notText

/-- Does something with a file, whose faults are answers. -/
def attempt {α : Type} (action : IO α) : IO (Except FileFault α) := do
  try
    let value ← action
    pure (.ok value)
  catch error => pure (.error (faultOf error))

/-- When a file was changed last; nothing when it is not there. -/
def lastChange (path : String) : IO (Option IO.FS.SystemTime) := do
  try
    let metadata ← (← IO.FS.realPath path).metadata
    pure (some metadata.modified)
  catch _ => pure none

/-- How long to wait between two looks at a file, in milliseconds. -/
def lookEvery : Nat := 50

/-- Waits until a file has changed and then not changed for a while. Quiet is how long it has not
changed since a change, if there was one. -/
partial def settle (path : String) (last : Option IO.FS.SystemTime) (quiet : Option Nat) :
    IO Bool := do
  IO.sleep (UInt32.ofNat lookEvery)
  let now ← lastChange path
  if now.isSome && now != last then settle path now (some 0)
  else
    match quiet with
    | none => settle path last none
    | some quiet =>
      if quiet + lookEvery ≥ Changes.quietPeriod then pure true
      else settle path last (some (quiet + lookEvery))

/-- Does a deed. -/
def doDeed : (d : Deed) → IO d.Answer
  | .readFile path => do
    match ← attempt (IO.FS.readBinFile path) with
    | .ok bytes => pure (textOf bytes)
    | .error fault => pure (.error fault)
  | .readInput => do
    match ← attempt (do (← IO.getStdin).readBinToEnd) with
    | .ok bytes => pure (textOf bytes)
    | .error fault => pure (.error fault)
  | .writeFile path text => attempt (IO.FS.writeFile path text)
  | .resolve path => attempt (do let _ ← IO.FS.realPath path)
  | .print text => do
    let out ← IO.getStdout
    out.putStr text
    out.flush
  | .note text => IO.eprint text
  | .now => do
    let now ← Std.Time.Timestamp.now
    pure (Timestamp.ofUnix now.toNanosecondsSinceUnixEpoch.val.toNat)
  | .newSession => do
    let bytes ← IO.getRandomBytes 16
    pure (SessionId.ofRandom (bytes.foldl (fun n b => n * 256 + b.toNat) 0))
  | .wait milliseconds => do
    IO.sleep (UInt32.ofNat milliseconds)
    pure false
  | .request _ => pure (none, false)
  | .settle path => do settle path (← lastChange path) none

/-- Does all deeds of a command. -/
def doDeeds {α : Type} : Deeds α → IO α
  | .done result => pure result
  | .ask deed next => do
    let answer ← doDeed deed
    doDeeds (next answer)

end Pipewright.World

open Pipewright in
/-- Runs the command line and exits with its status. -/
def main (line : List String) : IO UInt32 := do
  let env ← World.environment
  let onTerminal ← (← IO.getStdout).isTty
  let status ← World.doDeeds (runCommand (fun name => env.lookup name) onTerminal line)
  pure (UInt32.ofNat status)
