import Pipewright.Command.Run
import Pipewright.Command.Settle
import Pipewright.Rehearsal.Folder

/-!
# Desks

A desk is a world for commands: a folder, an input, what has been printed, and a clock that moves
only while a command waits. No request is ever answered. Files may be edited behind the back of a
command that waits for that, and it may be interrupted once, at a moment.
-/
namespace Pipewright.Rehearsal

/-- A change of a file. -/
structure Edit where
  /-- The path of the file. -/
  path : String
  /-- Its new text. -/
  text : String
  /-- When it is made, in milliseconds. -/
  moment : Nat

/-- A world for commands. -/
structure Desk where
  /-- The folder. -/
  folder : Folder
  /-- The standard input. -/
  input : String
  /-- What has been printed to the standard output. -/
  printed : String
  /-- What has been printed to the standard error stream since the last wait for changes. -/
  noted : String
  /-- The time since the start, in milliseconds. -/
  time : Nat
  /-- When the command is interrupted. -/
  interruptAt : Option Nat
  /-- The moment that every look at the clock gives. -/
  moment : Timestamp
  /-- The identifier of every session. -/
  session : SessionId
  /-- The changes to come, in order. -/
  edits : List Edit
  /-- What was noted before each wait for changes, and the folder then. -/
  rounds : List (String × Folder)

namespace Desk

/-- Makes a change; one that cannot be made is not made. -/
def edit (folder : Folder) (e : Edit) : Folder :=
  match folder.write e.path e.text with
  | .ok folder => folder
  | .error _ => folder

/-- Whether a change is one of the file of a path. -/
def touches (folder : Folder) (path : String) (e : Edit) : Bool :=
  match folder.way? path, folder.way? e.path with
  | some a, some b => a == b
  | _, _ => false

/-- Waits until the changes of a file have settled, and makes all that come meanwhile. -/
def settle (path : String) (desk : Desk) : Bool × Desk :=
  let moments := (desk.edits.filter (touches desk.folder path)).map Edit.moment
  match Changes.settle Changes.quietPeriod desk.time ⟨moments, none⟩ with
  | none => (false, desk)
  | some settled =>
    let isPast (e : Edit) : Bool := e.moment ≤ settled.moment
    (settled.changed,
      { desk with
        folder := (desk.edits.filter isPast).foldl edit desk.folder
        edits := desk.edits.filter fun e => !isPast e
        time := settled.moment })

/-- Answers a deed. -/
def answer (desk : Desk) : (d : Deed) → d.Answer × Desk
  | .readFile path => (desk.folder.read path, desk)
  | .readInput => (.ok desk.input, { desk with input := "" })
  | .writeFile path text =>
    match desk.folder.write path text with
    | .ok folder => (.ok (), { desk with folder })
    | .error fault => (.error fault, desk)
  | .resolve path => (desk.folder.resolve path, desk)
  | .print text => ((), { desk with printed := desk.printed ++ text })
  | .note text => ((), { desk with noted := desk.noted ++ text })
  | .now => (desk.moment, desk)
  | .newSession => (desk.session, desk)
  | .wait milliseconds =>
    let ending := desk.time + milliseconds
    match desk.interruptAt with
    | some moment =>
      if moment < ending then
        (true, { desk with time := max desk.time moment, interruptAt := none })
      else (false, { desk with time := ending })
    | none => (false, { desk with time := ending })
  | .request _ => ((none, false), desk)
  | .settle path =>
    settle path { desk with noted := "", rounds := desk.rounds ++ [(desk.noted, desk.folder)] }

/-- All that has been printed to the standard error stream. -/
def allNoted (desk : Desk) : String :=
  String.join (desk.rounds.map Prod.fst) ++ desk.noted

/-- Runs a command line at a desk. -/
def run (desk : Desk) (env : String → Option String) (line : List String) : Nat × Desk :=
  Dialogue.play answer desk (runCommand env false line)

end Desk

end Pipewright.Rehearsal
