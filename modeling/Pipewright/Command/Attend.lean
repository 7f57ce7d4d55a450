import Pipewright.Command.Work
import Pipewright.Deployment.Session
import Pipewright.Remote.Client

/-!
# Attended sessions

A session that somebody watches: each entry is shown as it is made, waits are real, calls go over
the network, and the first interruption is acknowledged and cancels the session.
-/
namespace Pipewright

/-- How a session is shown. -/
structure View where
  /-- Whether text is styled. -/
  styled : Bool
  /-- Whether entries are printed to the standard error stream. -/
  onErrorStream : Bool
  /-- The client that calls are made with. -/
  client : Client

/-- What has become of an attended session. -/
structure Attendance where
  /-- Whether it has been cancelled. -/
  cancelled : Bool
  /-- Its entries. -/
  entries : List Entry
  /-- The run it follows. -/
  run : Option (UInt64 × String)

namespace View

/-- The style of a message. -/
def paintMessage (view : View) (level : Level) (message : String) : String :=
  match level with
  | .info => message
  | .success => Style.green.paint view.styled message
  | .warning => Style.yellow.paint view.styled message
  | .error => Style.boldRed.paint view.styled message

/-- The line of an entry. -/
def line (view : View) (entry : Entry) : String :=
  Style.dimmed.paint view.styled entry.timestamp.clock ++ " "
    ++ view.paintMessage entry.level entry.message ++ "\n"

/-- Shows an entry. -/
def present (view : View) (entry : Entry) : Deeds Unit :=
  if view.onErrorStream then Dialogue.question (Deed.note (view.line entry))
  else Dialogue.question (Deed.print (view.line entry))

/-- The line that acknowledges an interruption. -/
def acknowledgement (view : View) : String :=
  Style.yellow.paint view.styled "Cancelling deployment..." ++ "\n"

end View

namespace Attendance

/-- The beginning of a session. -/
def start : Attendance := ⟨false, [], none⟩

/-- Cancels the session after an interruption, which is acknowledged once. -/
def heed (view : View) (interrupted : Bool) (a : Attendance) : Deeds Attendance :=
  if interrupted && !a.cancelled then do
    let _ ← Dialogue.question (Deed.note view.acknowledgement)
    pure { a with cancelled := true }
  else pure a

/-- Makes an entry and shows it. -/
def tell (view : View) (level : Level) (message : String) (a : Attendance) : Deeds Attendance := do
  let moment ← Dialogue.question Deed.now
  let entry : Entry := ⟨moment, level, message⟩
  view.present entry
  pure { a with entries := a.entries ++ [entry] }

/-- Carries out an exchange; an interruption cancels the session but not the exchange. -/
def exchange {α : Type} (view : View) : Http.Exchange α → Attendance → Deeds (α × Attendance)
  | .done result, a => .done (result, a)
  | .ask request next, a =>
    .ask (.request request) fun (response, interrupted) =>
      (a.heed view interrupted).bind fun a => exchange view (next response) a

/-- Carries out an exchange unless an interruption comes first. -/
def exchangeUnlessCancelled {α : Type} (view : View) :
    Http.Exchange α → Attendance → Deeds (Option α × Attendance)
  | .done result, a => .done (some result, a)
  | .ask request next, a =>
    .ask (.request request) fun (response, interrupted) =>
      if interrupted && !a.cancelled then
        (a.heed view interrupted).bind fun a => .done (none, a)
      else exchangeUnlessCancelled view (next response) a

end Attendance

/-- Attends a session to its end. -/
def Session.attend {α : Type} (view : View) : Session α → Attendance → Deeds (α × Attendance)
  | .done result, a => .done (result, a)
  | .ask (.enter _) next, a => attend view (next a.cancelled) a
  | .ask (.tell level message) next, a =>
    (a.tell view level message).bind fun a => attend view (next ()) a
  | .ask (.follow run url) next, a => attend view (next ()) { a with run := some (run, url) }
  | .ask (.call credentials c) next, a =>
    (a.exchange view (view.client.call credentials c)).bind fun (result, a) =>
      attend view (next result) a
  | .ask (.pause milliseconds) next, a =>
    if a.cancelled then attend view (next true) a
    else
      .ask (.wait milliseconds) fun interrupted =>
        (a.heed view interrupted).bind fun a => attend view (next interrupted) a
  | .ask (.download credentials job) next, a =>
    if a.cancelled then attend view (next none) a
    else
      (a.exchangeUnlessCancelled view (view.client.call credentials (.jobLog job))).bind
        fun (result, a) => attend view (next result) a

/-- Attends a session and makes its report. -/
def Session.report (view : View) (session : Session Outcome) : Deeds Report := do
  let sessionId ← Dialogue.question Deed.newSession
  let (outcome, a) ← session.attend view .start
  pure ⟨sessionId, a.entries, outcome, a.run.map Prod.fst, a.run.map Prod.snd⟩

end Pipewright
