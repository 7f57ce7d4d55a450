import Pipewright.Json.Record
import Pipewright.Json.Write
import Pipewright.Report.SessionId
import Pipewright.Report.Timestamp

/-!
# Reports

A session leaves a report: its entries in order, each with a moment, a level and a message, its
outcome, and the run it followed. Reports are written as JSON and read back.
-/
namespace Pipewright

/-- How serious an entry is. -/
inductive Level where
  /-- Something happens. -/
  | info
  /-- Something is done. -/
  | success
  /-- Something is uncertain. -/
  | warning
  /-- Something failed. -/
  | error
  deriving DecidableEq

/-- The levels by name. -/
def Level.listed : List (String × Level) :=
  [("Info", .info), ("Success", .success), ("Warning", .warning), ("Error", .error)]

/-- The name of a level. -/
def Level.name : Level → String
  | info => "Info"
  | success => "Success"
  | warning => "Warning"
  | error => "Error"

/-- How a session ends. -/
inductive Outcome where
  /-- The run completed and every job passed. -/
  | success
  /-- Something failed, here or there. -/
  | failure
  /-- The result of the run is not known. -/
  | indeterminate
  deriving DecidableEq

/-- The outcomes by name. -/
def Outcome.listed : List (String × Outcome) :=
  [("success", .success), ("failure", .failure), ("indeterminate", .indeterminate)]

/-- The name of an outcome. -/
def Outcome.name : Outcome → String
  | success => "success"
  | failure => "failure"
  | indeterminate => "indeterminate"

/-- An entry of a report. -/
structure Entry where
  /-- When it was made. -/
  timestamp : Timestamp
  /-- How serious it is. -/
  level : Level
  /-- What it tells. -/
  message : String
  deriving DecidableEq

/-- What a session leaves. -/
structure Report where
  /-- Which session it was. -/
  sessionId : SessionId
  /-- Its entries in order. -/
  entries : List Entry
  /-- How it ended. -/
  outcome : Outcome
  /-- The identifier of the run it followed. -/
  runId : Option UInt64
  /-- The address of that run. -/
  runUrl : Option String
  deriving DecidableEq

namespace Report

/-- The messages in order. -/
def lines (r : Report) : List String := r.entries.map Entry.message

/-- Whether the session succeeded. -/
def isSuccess (r : Report) : Bool := r.outcome == .success

end Report

open Json

/-- An entry as a value. -/
def Entry.toJson (e : Entry) : Json :=
  .object [("timestamp", .text e.timestamp.text), ("level", .text e.level.name),
    ("message", .text e.message)]

/-- A report as a value. -/
def Report.toJson (r : Report) : Json :=
  .object [("session_id", .text r.sessionId.text), ("entries", .list (r.entries.map Entry.toJson)),
    ("outcome", .text r.outcome.name), ("run_id", wordOrNull r.runId),
    ("run_url", textOrNull r.runUrl)]

/-- Reads a level. -/
def Level.reading : Reading Level := Reading.kind Level.listed

/-- Reads an outcome. -/
def Outcome.reading : Reading Outcome := Reading.kind Outcome.listed

/-- Reads a moment. -/
def Timestamp.reading : Reading Timestamp := fun node => do
  let text ← Reading.text node
  match Timestamp.parse text with
  | some t => .ok t
  | none => .error (.shape .badTimestamp)

/-- Reads a session identifier. -/
def SessionId.reading : Reading SessionId := fun node => do
  let text ← Reading.text node
  match SessionId.parse text with
  | some id => .ok id
  | none => .error (.shape .badSessionId)

/-- Reads an entry. -/
def Entry.reading : Reading Entry := fun node => do
  let (timestamp, level, message, _) ← Reading.record "ProgressEntry"
    [.required "timestamp" Timestamp.reading, .required "level" Level.reading,
      .required "message" Reading.text] node
  .ok ⟨timestamp, level, message⟩

/-- Reads a report. -/
def Report.reading : Reading Report := fun node => do
  let (sessionId, entries, outcome, runId, runUrl, _) ← Reading.record "DeploymentReport"
    [.required "session_id" SessionId.reading, .required "entries" (Reading.list Entry.reading),
      .required "outcome" Outcome.reading, .nullable "run_id" Reading.word,
      .nullable "run_url" Reading.text] node
  .ok ⟨sessionId, entries, outcome, runId, runUrl⟩

end Pipewright
