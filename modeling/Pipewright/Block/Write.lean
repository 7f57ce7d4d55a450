import Pipewright.Block.Basic
import Pipewright.Json.Write

/-!
# Writing block graphs

A block as a JSON object: its type, then its fields in order. A condition, arguments or times that
are not set and inputs or branches that are empty are left out.
-/
namespace Pipewright

/-- An input of a step as a value. -/
def StepInput.toJson (i : StepInput) : Json :=
  .object [("key", .text i.key), ("value", .text i.value)]

/-- A member that is there only when it is set. -/
def optionalMember (name : String) : Option String → List (String × Json)
  | some value => [(name, .text value)]
  | none => []

/-- A step as a value. -/
def Step.toJson (s : Step) : Json :=
  .object ([("type", .text "step"), ("name", .text s.name)] ++ optionalMember "args" s.args
    ++ (if s.inputs.isEmpty then [] else [("with", .list (s.inputs.map StepInput.toJson))]))

/-- A trigger as a value. -/
def Trigger.toJson (t : Trigger) : Json :=
  .object ([("type", .text "trigger"), ("event", .text t.event)]
    ++ (if t.branches.isEmpty then [] else [("branches", Json.texts t.branches)])
    ++ optionalMember "cron" t.cron)

/-- An environment variable as a value. -/
def EnvVar.toJson (v : EnvVar) : Json :=
  .object [("type", .text "env"), ("key", .text v.key), ("value", .text v.value)]

namespace Block

mutual

/-- A block as a value. -/
def toJson : Block → Json
  | pipeline name concurrent children =>
    .object [("type", .text "pipeline"), ("name", .text name), ("concurrent", .bool concurrent),
      ("children", .list (listToJson children))]
  | job name description continueOnError needs condition children =>
    .object ([("type", .text "job"), ("name", .text name), ("description", .text description),
      ("continue_on_error", .bool continueOnError), ("needs", Json.texts needs)]
      ++ optionalMember "condition" condition ++ [("children", .list (listToJson children))])
  | step s => s.toJson
  | trigger t => t.toJson
  | env v => v.toJson
  | unknown => .object [("type", .text "unknown")]

/-- Blocks as values. -/
def listToJson : List Block → List Json
  | [] => []
  | b :: blocks => toJson b :: listToJson blocks

end

end Block

/-- A pipeline as a value with its type. -/
def Pipeline.toJson (p : Pipeline) : Json := p.toBlock.toJson

/-- The text of a pipeline's value. -/
def Pipeline.toText (p : Pipeline) : String := p.toJson.toText

end Pipewright
