import Pipewright.Json.Strict

/-!
# Reading records

A record is read by the list of its fields, each with its name, its reading and what stands for it
when it is absent. It may be given as an object, whose members come in any order and may include
unknown ones, or as the list of its fields in order. The first fault in the order of the text is
the one reported; absent fields are looked at last, in the order of the record. Fields are read
from nodes of any kind, the outline of a text or a value already read.
-/
namespace Pipewright.Json

/-- A reading of a value of a type from its outline. -/
abbrev Reading (α : Type) := Outline → Except Fault α

namespace Reading

/-- Reads a text. -/
def text : Reading String
  | .text quoted => quoted.read
  | node => node.refuse .text

/-- Reads a truth value. -/
def bool : Reading Bool
  | .bool b => .ok b
  | node => node.refuse .bool

/-- Reads a natural number below 2^64. -/
def natural : Reading Nat
  | .number numeral => do
    let n ← numeral.value
    match n with
    | .natural n => .ok n
    | .negative _ => .error (.shape (.belowZero n))
    | .real _ _ => .error (.shape (.wrongKind (.number n) .natural))
  | node => node.refuse .natural

/-- Reads a natural number below 2^64 as a word. -/
def word : Reading UInt64 := fun node => do
  let n ← natural node
  .ok (UInt64.ofNat n)

/-- Reads null as nothing and anything else as a value. -/
def optional {α : Type} (reading : Reading α) : Reading (Option α)
  | .null => .ok none
  | node => do
    let value ← reading node
    .ok (some value)

/-- Reads items one after another. -/
def each {α : Type} (reading : Reading α) : List Outline → Except Fault (List α)
  | [] => .ok []
  | item :: items => do
    let value ← reading item
    let values ← each reading items
    .ok (value :: values)

/-- Reads a list. -/
def list {α : Type} (reading : Reading α) : Reading (List α)
  | .list _ items close => do
    let values ← each reading items
    close.check
    .ok values
  | node => node.refuse .list

/-- Reads the name of a kind: a quoted name, or an object of that one name with null. -/
def kind {α : Type} (listed : List (String × α)) : Reading α
  | .text quoted => do
    let name ← quoted.read
    choose name
  | .object _ [] (some bare) _ => do
    let found ← bare.found
    .error (.shape (.wrongKind found .kind))
  | .object start [] none close =>
    match close with
    | .cut _ _ offset => .error (.form .endInValue offset)
    | _ => .error (.form .noValue (start + 1))
  | .object start ((name, content) :: more) _ close => do
    let name ← name.read
    let value ← choose name
    match content with
    | .null =>
      match more, close with
      | [], .closed => .ok value
      | [], .cut false cause offset =>
        .error (.form (if cause.isEnd then .endInObject else .noValue) offset)
      | _, _ => .error (.form .noValue start)
    | other => other.refuse .unit
  | .broken opening cause _ offset =>
    match opening with
    | .other => .error (.form .noValue offset)
    | _ => .error (.form cause offset)
  | .null => .error (.form .noValue 0)
  | .bool _ => .error (.form .noValue 0)
  | .number numeral => .error (.form .noValue numeral.stop)
  | .list start _ _ => .error (.form .noValue (start + 1))
where
  /-- The kind of that name. -/
  choose (name : String) : Except Fault α :=
    match listed.lookup name with
    | some value => .ok value
    | none => .error (.shape (.unlisted name (listed.map Prod.fst)))

end Reading

/-- A field of a record read from nodes of a kind. -/
structure FieldReader (Node : Type) where
  /-- Its name. -/
  name : String
  /-- The type of its values. -/
  Value : Type
  /-- How it is read. -/
  reading : Node → Except Fault Value
  /-- What stands for it when an object does not name it. -/
  unnamed : Option Value
  /-- What stands for it when a list ends before it. -/
  beyond : Option Value

namespace FieldReader

variable {Node : Type}

/-- A field that has to be there. -/
def required {α : Type} (name : String) (reading : Node → Except Fault α) : FieldReader Node :=
  ⟨name, α, reading, none, none⟩

/-- A field with a value that stands for it when it is absent. -/
def withDefault {α : Type} (name : String) (reading : Node → Except Fault α) (value : α) :
    FieldReader Node :=
  ⟨name, α, reading, some value, some value⟩

/-- A field that may be null, or absent from an object but not from a list. -/
def nullable {α : Type} (name : String) (reading : Reading α) : FieldReader Outline :=
  ⟨name, Option α, reading.optional, some none, none⟩

end FieldReader

/-- The values of some fields. -/
def Values {Node : Type} : List (FieldReader Node) → Type
  | [] => Unit
  | field :: fields => field.Value × Values fields

/-- The values that have been read so far. -/
def Slots {Node : Type} : List (FieldReader Node) → Type
  | [] => Unit
  | field :: fields => Option field.Value × Slots fields

namespace Slots

variable {Node : Type}

/-- Nothing read so far. -/
def empty : (fields : List (FieldReader Node)) → Slots fields
  | [] => ()
  | _ :: fields => (none, empty fields)

/-- Reads a member into the slot of its name; a member of an unknown name is passed over. -/
def fill (pass : Node → Except Fault Unit) (name : String) (node : Node) :
    (fields : List (FieldReader Node)) → Slots fields → Except Fault (Slots fields)
  | [], () => do
    pass node
    .ok ()
  | field :: fields, (slot, slots) =>
    if name = field.name then
      match slot with
      | some _ => .error (.shape (.repeated field.name))
      | none => do
        let value ← field.reading node
        .ok (some value, slots)
    else do
      let slots ← fill pass name node fields slots
      .ok (slot, slots)

/-- Reads all members in order, a name being read just before its value. -/
def fillAll (pass : Node → Except Fault Unit) (fields : List (FieldReader Node))
    (slots : Slots fields) : List (Except Fault String × Node) → Except Fault (Slots fields)
  | [] => .ok slots
  | (name, node) :: members => do
    let name ← name
    let slots ← fill pass name node fields slots
    fillAll pass fields slots members

/-- The values of all slots, with what stands for the absent ones. -/
def complete : (fields : List (FieldReader Node)) → Slots fields → Except Fault (Values fields)
  | [], () => .ok ()
  | field :: fields, (slot, slots) =>
    match slot.or field.unnamed with
    | some value => do
      let values ← complete fields slots
      .ok (value, values)
    | none => .error (.shape (.missing field.name))

end Slots

/-- Reads fields from the members of an object that ends so. -/
def readMembers {Node : Type} (pass : Node → Except Fault Unit) (fields : List (FieldReader Node))
    (members : List (Except Fault String × Node)) (ending : Except Fault Unit) :
    Except Fault (Values fields) := do
  let slots ← Slots.fillAll pass fields (Slots.empty fields) members
  ending
  Slots.complete fields slots

/-- Reads fields from items in order, the first of them at an index of a record with that name and
number of fields, in a list that ends so; what is left over of the items is returned. -/
def readItems {Node : Type} (record : String) (count : Nat) (ending : Except Fault Unit)
    (index : Nat) : (fields : List (FieldReader Node)) → List Node →
    Except Fault (Values fields × List Node)
  | [], items => .ok ((), items)
  | field :: fields, [] => do
    ending
    match field.beyond with
    | some value =>
      let (values, left) ← readItems record count ending (index + 1) fields []
      .ok ((value, values), left)
    | none => .error (.shape (.tooFew index record count))
  | field :: fields, item :: items => do
    let value ← field.reading item
    let (values, left) ← readItems record count ending (index + 1) fields items
    .ok ((value, values), left)

/-- Reads a record of the given name and fields from the outline of a text. -/
def Reading.record (name : String) (fields : List (FieldReader Outline)) : Reading (Values fields)
  | .object _ members _ close =>
    readMembers Outline.skim fields (members.map fun (name, node) => (name.read, node)) close.check
  | .list start items close => do
    let (values, left) ← readItems name fields.length close.check 0 fields items
    if left.isEmpty then
      close.check
      .ok values
    else .error (.form .trailingText start)
  | node => node.refuse (.record name)

end Pipewright.Json
