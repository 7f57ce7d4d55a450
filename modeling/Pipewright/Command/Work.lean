import Pipewright.Command.Style
import Pipewright.Http.Exchange
import Pipewright.Report.SessionId
import Pipewright.Report.Timestamp

/-!
# Work of commands

What a command does is a dialogue of deeds: it reads and writes files, prints to two streams, asks
for the time, waits, and sends requests. A deed that takes time also tells whether it was
interrupted meanwhile. Nothing of the world is used but the answers to deeds.
-/
namespace Pipewright

/-- Why a file cannot be used. -/
inductive FileFault where
  /-- There is none of that name. -/
  | missing
  /-- It may not be used. -/
  | denied
  /-- Something on the way to it is no directory. -/
  | notDirectory
  /-- It is a directory. -/
  | directory
  /-- Its name is too long. -/
  | longName
  /-- Its bytes are no text. -/
  | notText
  /-- Anything else. -/
  | other (message : String)
  deriving DecidableEq

/-- The wording of a fault of a file. -/
def FileFault.message : FileFault → String
  | missing => "No such file or directory (os error 2)"
  | denied => "Permission denied (os error 13)"
  | notDirectory => "Not a directory (os error 20)"
  | directory => "Is a directory (os error 21)"
  | longName => "File name too long (os error 36)"
  | notText => "stream did not contain valid UTF-8"
  | other message => message

/-- A deed of a command. -/
inductive Deed where
  /-- Reads a file. -/
  | readFile (path : String)
  /-- Reads the standard input to its end. -/
  | readInput
  /-- Writes a file. -/
  | writeFile (path text : String)
  /-- Looks whether a file is there. -/
  | resolve (path : String)
  /-- Prints to the standard output. -/
  | print (text : String)
  /-- Prints to the standard error stream. -/
  | note (text : String)
  /-- Asks for the time. -/
  | now
  /-- Asks for the identifier of a new session. -/
  | newSession
  /-- Waits that many milliseconds, and asks whether that was interrupted. -/
  | wait (milliseconds : Nat)
  /-- Sends a request, and asks whether that was interrupted. -/
  | request (request : Http.Request)
  /-- Waits until the changes of a file have settled, and asks whether there were any. -/
  | settle (path : String)

/-- What a deed is answered. -/
@[reducible]
def Deed.Answer : Deed → Type
  | readFile _ => Except FileFault String
  | readInput => Except FileFault String
  | writeFile _ _ => Except FileFault Unit
  | resolve _ => Except FileFault Unit
  | print _ => Unit
  | note _ => Unit
  | now => Timestamp
  | newSession => SessionId
  | wait _ => Bool
  | request _ => Option Http.Response × Bool
  | settle _ => Bool

/-- What a command does. -/
abbrev Deeds := Dialogue Deed Deed.Answer

/-- Why a command ends early: what failed, and why if that is worth telling. -/
structure Complaint where
  /-- What failed. -/
  message : String
  /-- Why. -/
  cause : Option String
  deriving DecidableEq

namespace Complaint

/-- A complaint without a cause. -/
def plain (message : String) : Complaint := ⟨message, none⟩

/-- A text whose lines after the first are indented. -/
def indented (text : String) : String :=
  String.ofList ("    ".toList ++ text.toList.flatMap fun c =>
    if c = '\n' then "\n    ".toList else [c])

/-- A complaint over several lines. -/
def report (c : Complaint) : String :=
  match c.cause with
  | none => "Error: " ++ c.message
  | some cause => "Error: " ++ c.message ++ "\n\nCaused by:\n" ++ indented cause

/-- A complaint on one line. -/
def line (c : Complaint) : String :=
  match c.cause with
  | none => c.message
  | some cause => c.message ++ ": " ++ cause

end Complaint

/-- A part of a command that a complaint may end. -/
abbrev Work := ExceptT Complaint Deeds

namespace Work

/-- Does a deed. -/
def deed (d : Deed) : Work d.Answer := ExceptT.lift (Dialogue.question d)

/-- Ends with a complaint. -/
def complain {α : Type} (message : String) : Work α := throw (.plain message)

/-- Prints a line to the standard output. -/
def print (text : String) : Work Unit := deed (.print (text ++ "\n"))

/-- Prints a line to the standard error stream. -/
def note (text : String) : Work Unit := deed (.note (text ++ "\n"))

/-- Does a deed with a file; a fault of it is the cause of a complaint. -/
def withFile {α : Type} (message : String) (result : Except FileFault α) : Work α :=
  match result with
  | .ok value => pure value
  | .error fault => throw ⟨message, some fault.message⟩

end Work

end Pipewright
