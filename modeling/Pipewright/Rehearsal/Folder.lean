import Pipewright.Command.Work
import Pipewright.Text.Split

/-!
# Folders

A folder in memory: files by the names on the way to them. Paths are followed name by name, and a
directory is there when a file is in it; nothing outside the folder is there.
-/
namespace Pipewright.Rehearsal

/-- The names on the way to a file. -/
abbrev Way := List String

/-- A folder. -/
structure Folder where
  /-- The files. -/
  files : List (Way × String)

namespace Folder

/-- The parts of a path between its slashes. -/
def parts (path : String) : List String := (splitAtChar '/' path.toList).map String.ofList

/-- Whether a part of a path leads nowhere else. -/
def isIdle (part : String) : Bool := part == "" || part == "."

/-- The folder of files with their paths. -/
def ofFiles (files : List (String × String)) : Folder :=
  ⟨files.map fun (path, text) => ((parts path).filter (fun part => !isIdle part), text)⟩

/-- The text of the file at the end of a way. -/
def file? (folder : Folder) (way : Way) : Option String := folder.files.lookup way

/-- Whether a directory is at the end of a way. -/
def isDirectory (folder : Folder) (way : Way) : Bool :=
  way.isEmpty || folder.files.any fun (other, _) => other != way && way.isPrefixOf other

/-- The most bytes of a name. -/
def maxNameLength : Nat := 255

/-- The directory that a part of a path leads to. -/
def enter (folder : Folder) (here : Way) (part : String) : Except FileFault Way :=
  if isIdle part then .ok here
  else if part = ".." then if here.isEmpty then .error .missing else .ok here.dropLast
  else if folder.isDirectory (here ++ [part]) then .ok (here ++ [part])
  else if (folder.file? (here ++ [part])).isSome then .error .notDirectory
  else if part.utf8ByteSize > maxNameLength then .error .longName
  else .error .missing

/-- The directory that parts of a path lead to. -/
def enterAll (folder : Folder) (here : Way) : List String → Except FileFault Way
  | [] => .ok here
  | part :: rest => do
    let here ← folder.enter here part
    folder.enterAll here rest

/-- Where a path leads: a directory, and a name in it unless it is the directory itself. -/
def locate (folder : Folder) (path : String) : Except FileFault (Way × Option String) :=
  let parts := parts path
  match parts.getLast? with
  | none => .error .missing
  | some last =>
    if path.toList.head? = some '/' then .error .missing
    else do
      let here ← folder.enterAll [] parts.dropLast
      if last = ".." then .ok (here.dropLast, none)
      else if isIdle last then .ok (here, none)
      else if folder.isDirectory (here ++ [last]) then .ok (here ++ [last], none)
      else if last.utf8ByteSize > maxNameLength then .error .longName
      else .ok (here, some last)

/-- The device that is empty and takes everything. -/
def nothing : String := "/dev/null"

/-- Reads a file. -/
def read (folder : Folder) (path : String) : Except FileFault String :=
  if path = nothing then .ok ""
  else do
    match ← folder.locate path with
    | (_, none) => .error .directory
    | (here, some name) =>
      match folder.file? (here ++ [name]) with
      | some text => .ok text
      | none => .error .missing

/-- Looks whether a file or a directory is there. -/
def resolve (folder : Folder) (path : String) : Except FileFault Unit := do
  match ← folder.locate path with
  | (_, none) => .ok ()
  | (here, some name) =>
    if (folder.file? (here ++ [name])).isSome then .ok () else .error .missing

/-- The folder with a text in the file at the end of a way. -/
def put (folder : Folder) (way : Way) (text : String) : Folder :=
  if (folder.file? way).isSome then
    ⟨folder.files.map fun (other, old) => (other, if other = way then text else old)⟩
  else ⟨folder.files ++ [(way, text)]⟩

/-- Writes a file. -/
def write (folder : Folder) (path text : String) : Except FileFault Folder :=
  if path = nothing then .ok folder
  else
    match folder.locate path with
    | .ok (_, none) => .error .directory
    | .ok (here, some name) => .ok (folder.put (here ++ [name]) text)
    | .error fault =>
      let parts := parts path
      if fault = .missing && parts.getLast? = some "" && path.toList.head? ≠ some '/' then
        match folder.enterAll [] (parts.dropLast.dropLast) with
        | .ok _ => .error .directory
        | .error fault => .error fault
      else .error fault

/-- The way to the file of a path, if it leads to one. -/
def way? (folder : Folder) (path : String) : Option Way :=
  match folder.locate path with
  | .ok (here, some name) => some (here ++ [name])
  | _ => none

/-- The path of a way. -/
def pathOf (way : Way) : String := String.intercalate "/" way

/-- The files that another folder has not, or has with another text. -/
def changesFrom (folder before : Folder) : List (String × String) :=
  (folder.files.filter fun (way, text) => before.file? way != some text).map
    fun (way, text) => (pathOf way, text)

end Folder

end Pipewright.Rehearsal
