import Pipewright.Json.Numeral

/-!
# Reading a text into a value

The strict reading of an outline makes a value of it and refuses what has none: surrogates without
a partner, numbers beyond the binary format, more than 127 levels of nesting. The skimming reading
of a value that nobody asks for only follows its form. Both meet the faults of a text in the order
in which they stand.
-/
namespace Pipewright.Json

/-- Whether a UTF-16 unit is the first of a surrogate pair. -/
def isLeading (code : Nat) : Bool := 0xD800 ≤ code && code ≤ 0xDBFF

/-- Whether a UTF-16 unit is the second of a surrogate pair. -/
def isTrailing (code : Nat) : Bool := 0xDC00 ≤ code && code ≤ 0xDFFF

/-- The character of a surrogate pair. -/
def pairChar (leading trailing : Nat) : Char :=
  Char.ofNat (0x10000 + (leading - 0xD800) * 0x400 + (trailing - 0xDC00))

/-- The fault of a quoted text that is not closed. -/
def QuoteEnd.fault? (finish : QuoteEnd) (stop : Nat) : Option Fault :=
  match finish with
  | .closed => none
  | .cut => some (.form .endInText stop)
  | .control => some (.form .rawControl stop)
  | .badEscape => some (.form .badEscape stop)
  | .badHex => some (.form .badEscape stop)

namespace Quoted

/-- The fault of a leading surrogate after which the pieces end. -/
def unpaired (finish : QuoteEnd) (offset stop : Nat) : Fault :=
  match finish with
  | .closed => .form .brokenPair (offset + 1)
  | .control => .form .brokenPair (offset + 1)
  | .badEscape => .form .brokenPair (offset + 2)
  | .cut => .form .endInText stop
  | .badHex => .form .badEscape stop

/-- The characters of pieces from an offset on, in a text that ends so. -/
def characters (finish : QuoteEnd) (stop offset : Nat) : List Piece → Except Fault (List Char)
  | [] =>
    match finish.fault? stop with
    | none => .ok []
    | some fault => .error fault
  | .plain (.char c) :: pieces => do
    let rest ← characters finish stop (offset + c.utf8Size) pieces
    .ok (c :: rest)
  | .plain (.stray _) :: _ => .error (.form .badCodePoint stop)
  | .short c :: pieces => do
    let rest ← characters finish stop (offset + 2) pieces
    .ok (c :: rest)
  | .unit code :: pieces =>
    if isTrailing code then .error (.form .loneSurrogate (offset + 6))
    else if isLeading code then
      match pieces with
      | [] => .error (unpaired finish (offset + 6) stop)
      | .plain _ :: _ => .error (.form .brokenPair (offset + 7))
      | .short _ :: _ => .error (.form .brokenPair (offset + 8))
      | .unit second :: pieces =>
        if isTrailing second then do
          let rest ← characters finish stop (offset + 12) pieces
          .ok (pairChar code second :: rest)
        else .error (.form .loneSurrogate (offset + 12))
    else do
      let rest ← characters finish stop (offset + 6) pieces
      .ok (Char.ofNat code :: rest)

/-- The text that a quoted text stands for. -/
def read (quoted : Quoted) : Except Fault String := do
  let cs ← characters quoted.finish quoted.stop quoted.start quoted.pieces
  .ok (String.ofList cs)

/-- Follows a quoted text that nobody asks for. -/
def skim (quoted : Quoted) : Except Fault Unit :=
  match quoted.finish.fault? quoted.stop with
  | none => .ok ()
  | some fault => .error fault

end Quoted

/-- The fault with which a list or object ends, if it does not end with its bracket. -/
def Close.check : Close → Except Fault Unit
  | .closed => .ok ()
  | .cut _ cause offset => .error (.form cause offset)
  | .unread => .ok ()

namespace Outline

mutual

/-- The value of an outline that may nest that many levels. -/
def strict (depth : Nat) : Outline → Except Fault Json
  | null => .ok .null
  | bool b => .ok (.bool b)
  | number numeral => do
    let n ← numeral.value
    .ok (.number n)
  | text quoted => do
    let s ← quoted.read
    .ok (.text s)
  | list start items close =>
    match depth with
    | 0 => .error (.form .tooDeep (start + 1))
    | depth + 1 => do
      let values ← strictItems depth items
      close.check
      .ok (.list values)
  | object start members _ close =>
    match depth with
    | 0 => .error (.form .tooDeep (start + 1))
    | depth + 1 => do
      let values ← strictMembers depth members
      close.check
      .ok (.object values)
  | broken _ cause _ offset => .error (.form cause offset)

/-- The values of the items of a list. -/
def strictItems (depth : Nat) : List Outline → Except Fault (List Json)
  | [] => .ok []
  | item :: items => do
    let value ← strict depth item
    let values ← strictItems depth items
    .ok (value :: values)

/-- The named values of the members of an object. -/
def strictMembers (depth : Nat) :
    List (Quoted × Outline) → Except Fault (List (String × Json))
  | [] => .ok []
  | (name, member) :: members => do
    let name ← name.read
    let value ← strict depth member
    let values ← strictMembers depth members
    .ok ((name, value) :: values)

end

mutual

/-- Follows a value that nobody asks for. -/
def skim : Outline → Except Fault Unit
  | null => .ok ()
  | bool _ => .ok ()
  | number _ => .ok ()
  | text quoted => quoted.skim
  | list _ items close => do
    skimItems items
    close.check
  | object _ members _ close => do
    skimMembers members
    close.check
  | broken _ _ skimmed offset => .error (.form skimmed offset)

/-- Follows the items of a list. -/
def skimItems : List Outline → Except Fault Unit
  | [] => .ok ()
  | item :: items => do
    skim item
    skimItems items

/-- Follows the members of an object. -/
def skimMembers : List (Quoted × Outline) → Except Fault Unit
  | [] => .ok ()
  | (name, member) :: members => do
    name.skim
    skim member
    skimMembers members

end

/-- The levels of lists and objects that a value may nest. -/
def maxDepth : Nat := 127

/-- What stands here, as a refusal tells it; the fault of a value that has none wins. -/
def found : Outline → Except Fault Found
  | null => .ok .null
  | bool b => .ok (.bool b)
  | number numeral => do
    let n ← numeral.value
    .ok (.number n)
  | text quoted => do
    let s ← quoted.read
    .ok (.text s)
  | list _ _ _ => .ok .list
  | object _ _ _ _ => .ok .object
  | broken _ cause _ offset => .error (.form cause offset)

/-- Refuses what stands here for what was wanted. -/
def refuse {α : Type} (node : Outline) (want : Want) : Except Fault α := do
  let found ← node.found
  .error (.shape (.wrongKind found want))

end Outline

/-- Reads a whole text: a reading of the outline of its value, after which only spaces may
stand. -/
def readWhole {α : Type} (reading : Outline → Except Fault α) (text : List Letter) :
    Except Fault α := do
  let (node, after) := outline text
  let value ← reading node
  match after with
  | none => .ok value
  | some c =>
    let c := c.skipSpace
    if c.rest.isEmpty then .ok value else .error (.form .trailingText (c.offset + 1))

/-- The value of a text, its members in the order of the text. -/
def ofLetters (text : List Letter) : Except Fault Json :=
  readWhole (Outline.strict Outline.maxDepth) text

/-- The value of a text, its members settled. -/
def parse (text : String) : Except Fault Json := do
  let value ← ofLetters (Letter.ofText text.toList)
  .ok value.settled

/-- The line and the column of an offset in a text, lines counted from one and columns in bytes. -/
def lineColumn (offset : Nat) (text : List Char) : Nat × Nat :=
  let rec go (line column left : Nat) : List Char → Nat × Nat
    | [] => (line, column)
    | c :: rest =>
      if left = 0 then (line, column)
      else if c = '\n' then go (line + 1) 0 (left - 1) rest
      else go line (column + min left c.utf8Size) (left - c.utf8Size) rest
  go 1 0 offset text

/-- The wording of a fault in a text: a fault of the form with its place. -/
def Fault.message (text : String) : Fault → String
  | .form cause offset =>
    let (line, column) := lineColumn offset text.toList
    cause.message ++ " at line " ++ toString line ++ " column " ++ toString column
  | .shape mismatch => mismatch.message

end Pipewright.Json
