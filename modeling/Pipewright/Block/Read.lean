import Pipewright.Block.Basic
import Pipewright.Json.Value

/-!
# Reading block graphs

A block is an object whose type names its kind, or a list of its kind and its fields in order.
Kinds that are not listed make unknown blocks. Among the children of another block a kind may also
be given by its number. The text of a workspace is null, one block, or a list of blocks, all of
which have to be readable; its pipeline is the first one.
-/
namespace Pipewright

open Json

/-- The kinds of block. -/
inductive BlockKind where
  /-- A pipeline. -/
  | pipeline
  /-- A job. -/
  | job
  /-- A step. -/
  | step
  /-- A trigger. -/
  | trigger
  /-- An environment variable. -/
  | env
  /-- Any other kind. -/
  | unknown
  deriving DecidableEq

namespace BlockKind

/-- The kinds with a name of their own, in the order of their numbers. -/
def listed : List (String × BlockKind) :=
  [("pipeline", pipeline), ("job", job), ("step", step), ("trigger", trigger), ("env", env)]

/-- The kind of a name. -/
def ofName (name : String) : BlockKind := (listed.lookup name).getD unknown

/-- The kind of a number. -/
def ofNumber (n : Nat) : BlockKind := ((listed[n]?).map Prod.snd).getD unknown

/-- The kind that a value gives, by number only where numbers are allowed. -/
def ofValue (numbered : Bool) : Json → Except Fault BlockKind
  | .text name => .ok (ofName name)
  | .number (.natural n) =>
    if numbered then .ok (ofNumber n) else (Json.number (.natural n)).refuse .kind
  | other => other.refuse .kind

end BlockKind

/-- What a block holds besides its kind. -/
inductive BlockBody where
  /-- The members of an object. -/
  | named (members : List (String × Json))
  /-- The items of a list. -/
  | inOrder (items : List Json)

namespace BlockBody

/-- Reads a record of the given name and fields. -/
def record (name : String) (fields : List (FieldReader Json)) :
    BlockBody → Except Fault (Values fields)
  | named members => recordOfMembers fields members
  | inOrder items => recordOfItems name fields items

/-- Takes an object apart into its kind and its other members. -/
def split (numbered : Bool) (kind : Option BlockKind) :
    List (String × Json) → Except Fault (Option BlockKind × List (String × Json))
  | [] => .ok (kind, [])
  | (name, value) :: members =>
    if name = "type" then
      match kind with
      | some _ => .error (.shape (.repeated "type"))
      | none => do
        let kind ← BlockKind.ofValue numbered value
        split numbered (some kind) members
    else do
      let (kind, members) ← split numbered kind members
      .ok (kind, (name, value) :: members)

/-- Takes a value apart into its kind and the rest. -/
def ofValue (numbered : Bool) : Json → Except Fault (BlockKind × BlockBody)
  | .object members => do
    let (kind, members) ← split numbered none members
    match kind with
    | some kind => .ok (kind, .named members)
    | none => .error (.shape (.missing "type"))
  | .list [] => .error (.shape (.missing "type"))
  | .list (kind :: items) => do
    let kind ← BlockKind.ofValue numbered kind
    .ok (kind, .inOrder items)
  | other => other.refuse .block

end BlockBody

/-- Reads an input of a step. -/
def StepInput.ofValue (value : Json) : Except Fault StepInput := do
  let (key, value, _) ←
    value.asRecord "StepInput" [.required "key" asText, .required "value" asText]
  .ok ⟨key, value⟩

/-- The fields of a step. -/
def Step.fields : List (FieldReader Json) :=
  [.withDefault "name" asText "", .withDefault "args" asOptionalText none,
    .withDefault "with" (asList StepInput.ofValue) []]

/-- The fields of a trigger. -/
def Trigger.fields : List (FieldReader Json) :=
  [.required "event" asText, .withDefault "branches" (asList asText) [],
    .withDefault "cron" asOptionalText none]

/-- The fields of an environment variable. -/
def EnvVar.fields : List (FieldReader Json) :=
  [.required "key" asText, .withDefault "value" asText ""]

/-- The fields of a pipeline, given how its blocks are read. -/
def Pipeline.fields (block : Json → Except Fault Block) : List (FieldReader Json) :=
  [.withDefault "name" asText "default_pipeline", .withDefault "concurrent" asBool false,
    .withDefault "children" (asList block) []]

/-- The fields of a job, given how its blocks are read. -/
def Job.fields (block : Json → Except Fault Block) : List (FieldReader Json) :=
  [.withDefault "name" asText "", .withDefault "description" asText "",
    .withDefault "continue_on_error" asBool false, .withDefault "needs" (asList asText) [],
    .withDefault "condition" asOptionalText none, .withDefault "children" (asList block) []]

namespace Block

/-- Makes a block of its kind and the rest, given how the blocks inside it are read. -/
def ofBody (block : Json → Except Fault Block) (kind : BlockKind) (body : BlockBody) :
    Except Fault Block :=
  match kind with
  | .pipeline => do
    let (name, concurrent, children, _) ← body.record "PipelineBlock" (Pipeline.fields block)
    .ok (.pipeline name concurrent children)
  | .job => do
    let (name, description, continueOnError, needs, condition, children, _) ←
      body.record "JobBlock" (Job.fields block)
    .ok (.job name description continueOnError needs condition children)
  | .step => do
    let (name, args, inputs, _) ← body.record "StepBlock" Step.fields
    .ok (.step ⟨name, args, inputs⟩)
  | .trigger => do
    let (event, branches, cron, _) ← body.record "TriggerBlock" Trigger.fields
    .ok (.trigger ⟨event, branches, cron⟩)
  | .env => do
    let (key, value, _) ← body.record "EnvBlock" EnvVar.fields
    .ok (.env ⟨key, value⟩)
  | .unknown =>
    match body with
    | .named _ => .ok .unknown
    | .inOrder [] => .ok .unknown
    | .inOrder items => .error (.shape (.tooMany items.length 0))

/-- Reads a block whose blocks nest no deeper than the fuel. -/
def ofValueWithin : Nat → Bool → Json → Except Fault Block
  | 0, _, value => value.refuse .block
  | fuel + 1, numbered, value => do
    let (kind, body) ← BlockBody.ofValue numbered value
    ofBody (ofValueWithin fuel true) kind body

/-- Reads a block that stands at the top of a workspace. -/
def ofValue (value : Json) : Except Fault Block := ofValueWithin (value.height + 1) false value

/-- Takes an object in a text apart into its kind and its other members. -/
def splitOutline (kind : Option BlockKind) :
    List (Quoted × Outline) → Except Fault (Option BlockKind × List (String × Json))
  | [] => .ok (kind, [])
  | (name, node) :: members => do
    let name ← name.read
    if name = "type" then
      match kind with
      | some _ => .error (.shape (.repeated "type"))
      | none =>
        let kind ← readKind node
        splitOutline (some kind) members
    else
      let value ← node.strict (Outline.maxDepth - 1)
      let (kind, members) ← splitOutline kind members
      .ok (kind, (name, value) :: members)
where
  /-- The kind that a name in a text gives. -/
  readKind : Reading BlockKind
    | .text quoted => do
      let name ← quoted.read
      .ok (BlockKind.ofName name)
    | node => node.refuse .kind

/-- The height of the tallest value of a body, with its list or object. -/
def bodyHeight : BlockBody → Nat
  | .named members => Json.membersHeight members + 1
  | .inOrder items => Json.itemsHeight items + 1

/-- Reads a block from a text in one pass, so the first fault in the order of the text counts. -/
def reading : Reading Block
  | .object _ members _ close => do
    let (kind, members) ← splitOutline none members
    close.check
    match kind with
    | some kind =>
      let body := BlockBody.named members
      ofBody (ofValueWithin (bodyHeight body + 1) true) kind body
    | none => .error (.shape (.missing "type"))
  | .list _ [] close => do
    close.check
    .error (.shape (.missing "type"))
  | .list _ (kind :: items) close => do
    let kind ← splitOutline.readKind kind
    let items ← Outline.strictItems (Outline.maxDepth - 1) items
    close.check
    let body := BlockBody.inOrder items
    ofBody (ofValueWithin (bodyHeight body + 1) true) kind body
  | node => node.refuse .block

end Block

/-- The first pipeline of some blocks. -/
def Pipeline.first (blocks : List Block) : Option Pipeline := blocks.findSome? Block.pipeline?

/-- The pipeline of a workspace given as a value. -/
def Pipeline.ofWorkspace : Json → Except Fault (Option Pipeline)
  | .null => .ok none
  | .list items => do
    let blocks ← readEach Block.ofValue items
    .ok (first blocks)
  | value => do
    let block ← Block.ofValue value
    .ok (first [block])

/-- The pipeline of the text of a workspace. -/
def Pipeline.parse (text : String) : Except Fault (Option Pipeline) := do
  let value ← Json.parse text
  ofWorkspace value

end Pipewright
