import Pipewright.Json.Record

/-!
# Reading values

Texts, truth values, lists and records read from a value instead of the outline of a text. The
form of a value is already settled, so only its shape can be wrong.
-/
namespace Pipewright.Json

/-- What a value is, as far as a refusal tells. -/
def found : Json → Found
  | null => .null
  | bool b => .bool b
  | number n => .number n
  | text s => .text s
  | list _ => .list
  | object _ => .object

/-- Refuses a value for what was wanted. -/
def refuse {α : Type} (value : Json) (want : Want) : Except Fault α :=
  .error (.shape (.wrongKind value.found want))

/-- The text of a value. -/
def asText : Json → Except Fault String
  | text s => .ok s
  | other => other.refuse .text

/-- The truth value of a value. -/
def asBool : Json → Except Fault Bool
  | bool b => .ok b
  | other => other.refuse .bool

/-- The text of a value that may be null. -/
def asOptionalText : Json → Except Fault (Option String)
  | null => .ok none
  | other => other.asText.map some

/-- Reads values one after another. -/
def readEach {α : Type} (reading : Json → Except Fault α) : List Json → Except Fault (List α)
  | [] => .ok []
  | item :: items => do
    let value ← reading item
    let values ← readEach reading items
    .ok (value :: values)

/-- Reads the items of a list. -/
def asList {α : Type} (reading : Json → Except Fault α) : Json → Except Fault (List α)
  | list items => readEach reading items
  | other => other.refuse .list

/-- Reads a record from the items of a list, all of which it has to take. -/
def recordOfItems (name : String) (fields : List (FieldReader Json)) (items : List Json) :
    Except Fault (Values fields) := do
  let (values, left) ← readItems name fields.length (.ok ()) 0 fields items
  if left.isEmpty then .ok values
  else .error (.shape (.tooMany items.length fields.length))

/-- Reads a record from the members of an object, unknown names being passed over. -/
def recordOfMembers (fields : List (FieldReader Json)) (members : List (String × Json)) :
    Except Fault (Values fields) :=
  readMembers (fun _ => .ok ()) fields (members.map fun (name, value) => (.ok name, value))
    (.ok ())

/-- Reads a record of the given name and fields. -/
def asRecord (name : String) (fields : List (FieldReader Json)) :
    Json → Except Fault (Values fields)
  | list items => recordOfItems name fields items
  | object members => recordOfMembers fields members
  | other => other.refuse (.record name)

end Pipewright.Json
