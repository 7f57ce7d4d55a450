import Pipewright.Block.Write
import Pipewright.Proofs.Block.Reading
import Pipewright.Proofs.Json.Writing

/-!
# Blocks are read as they were written

A written block is an object whose members have distinct names, its type first; what it leaves out
is what stands for a field that is not there. So every block, with all that is inside it, reads
back from its value (`Block.ofValueWithin_toJson`), and every pipeline from its text, unless it
nests too deep to be read at all (`Pipeline.parse_toText_eq_ok_iff`).
-/
namespace Pipewright

open Json

/-! ## Parts -/

namespace Json

/-- A text settles to itself. -/
@[simp] theorem settled_text (s : String) : (Json.text s).settled = .text s := rfl

/-- A truth value settles to itself. -/
@[simp] theorem settled_bool (b : Bool) : (Json.bool b).settled = .bool b := rfl

/-- A text is read as one. -/
@[simp] theorem asText_text (s : String) : asText (.text s) = .ok s := rfl

/-- A truth value is read as one. -/
@[simp] theorem asBool_bool (b : Bool) : asBool (.bool b) = .ok b := rfl

/-- A text that is set is read where it may be null. -/
@[simp] theorem asOptionalText_text (s : String) : asOptionalText (.text s) = .ok (some s) := rfl

/-- The items of a list are read as they were written when each of them is. -/
theorem asList_written {α : Type} {reading : Json → Except Fault α} {write : α → Json}
    (read : ∀ item, reading (write item).settled = .ok item) (items : List α) :
    asList reading (Json.list (items.map write)).settled = .ok items := by
  rw [settled, settledItems_eq_map, List.map_map, asList]
  induction items with
  | nil => rfl
  | cons item items ih =>
    rw [List.map_cons, readEach, Function.comp_apply, read, ih]
    rfl

/-- Texts are read as they were written. -/
@[simp] theorem asList_texts (items : List String) :
    asList asText (Json.texts items).settled = .ok items :=
  asList_written asText_text items

/-- A text that may be left out is read as it was. -/
@[simp] theorem reads_optional (name : String) (value : Option String) :
    (FieldReader.withDefault name asOptionalText none).Reads
      (value.map (settled ∘ Json.text)) value := by
  cases value <;> simp

/-- A list that is left out when it is empty is read as it was. -/
theorem reads_unless_empty {α : Type} [DecidableEq α] (name : String)
    {reading : Json → Except Fault α} {value : Json} {items : List α}
    (read : asList reading value.settled = .ok items) :
    (FieldReader.withDefault name (asList reading) []).Reads
      (Option.map settled (if items = [] then none else some value)) items := by
  by_cases empty : items = []
  · simp [empty]
  · simpa [empty] using read

end Json

/-- An input is read as it was written. -/
theorem StepInput.ofValue_toJson (i : StepInput) :
    StepInput.ofValue i.toJson.settled = .ok i := by
  rw [StepInput.ofValue, StepInput.toJson, settled, asRecord, bind_eq_ok]
  refine ⟨(i.key, i.value, ()), (recordOfMembers_eq_ok_iff
    (haveDistinctNames_settledMembers _) StepInput.areAlike_fields.distinct).mpr ?_, rfl⟩
  simp [ReadsFields, lookup_settledMembers, lastNamed]

/-- Inputs are read as they were written. -/
@[simp] theorem asList_inputs (inputs : List StepInput) :
    asList StepInput.ofValue (Json.list (inputs.map StepInput.toJson)).settled = .ok inputs :=
  asList_written StepInput.ofValue_toJson inputs

/-- A member that is there only when it is set is the last of its name when it is. -/
@[simp] theorem lastNamed_optionalMember (name other : String) (value : Option String) :
    lastNamed other (optionalMember name value) =
      if name = other then value.map Json.text else none := by
  cases value <;> simp [optionalMember, lastNamed]

/-- A member that is left out under a condition is the last of its name otherwise. -/
@[simp] theorem lastNamed_ite (name other : String) (value : Json) (absent : Prop)
    [Decidable absent] :
    lastNamed other (if absent then [] else [(name, value)]) =
      if name = other ∧ ¬absent then some value else none := by
  by_cases absent <;> simp_all [lastNamed]

/-! ## Blocks -/

namespace Block

variable (fuel : Nat) (numbered : Bool)

/-- An object with the name of a kind is read as a block of that kind. -/
theorem ofValueWithin_object (name : String) {members : List (String × Json)} {b : Block}
    (type : lastNamed "type" members = some (.text name))
    (read : ofBody (ofValueWithin fuel true) (BlockKind.ofName name)
      (BlockBody.named members).settled = .ok b) :
    ofValueWithin (fuel + 1) numbered (Json.object members).settled = .ok b := by
  refine ofValueWithin_settled_eq_ok_iff.mpr
    ⟨.text name, .named members, BlockKind.ofName name, ?_, rfl, read⟩
  rw [takenApart, type]
  rfl

/-- A step is read as it was written. -/
theorem ofValueWithin_step (s : Step) :
    ofValueWithin (fuel + 1) numbered s.toJson.settled = .ok (step s) := by
  refine ofValueWithin_object fuel numbered "step" (by simp [lastNamed, lastNamed_append]) ?_
  refine (ofBody_step_eq_ok_iff (BlockBody.isSettled_settled _)).mpr
    ⟨Nat.zero_le _, (s.name, s.args, s.inputs, ()), ?_, rfl⟩
  simp [ReadsFields, Step.fields, BlockBody.last, lastNamed, lastNamed_append,
    reads_unless_empty]

/-- A trigger is read as it was written. -/
theorem ofValueWithin_trigger (t : Trigger) :
    ofValueWithin (fuel + 1) numbered t.toJson.settled = .ok (trigger t) := by
  refine ofValueWithin_object fuel numbered "trigger" (by simp [lastNamed, lastNamed_append]) ?_
  refine (ofBody_trigger_eq_ok_iff (BlockBody.isSettled_settled _)).mpr
    ⟨Nat.zero_le _, (t.event, t.branches, t.cron, ()), ?_, rfl⟩
  simp [ReadsFields, Trigger.fields, BlockBody.last, lastNamed, lastNamed_append,
    reads_unless_empty]

/-- An environment variable is read as it was written. -/
theorem ofValueWithin_env (v : EnvVar) :
    ofValueWithin (fuel + 1) numbered v.toJson.settled = .ok (env v) := by
  refine ofValueWithin_object fuel numbered "env" (by simp [lastNamed]) ?_
  refine (ofBody_env_eq_ok_iff (BlockBody.isSettled_settled _)).mpr
    ⟨Nat.zero_le _, (v.key, v.value, ()), ?_, rfl⟩
  simp [ReadsFields, EnvVar.fields, BlockBody.last, lastNamed]

/-- A pipeline is read as it was written when its blocks are. -/
theorem ofValueWithin_pipeline {name : String} {concurrent : Bool} {children : List Block}
    (inside : asList (ofValueWithin fuel true) (Json.list (listToJson children)).settled =
      .ok children) :
    ofValueWithin (fuel + 1) numbered (pipeline name concurrent children).toJson.settled =
      .ok (pipeline name concurrent children) := by
  refine ofValueWithin_object fuel numbered "pipeline" (by simp [lastNamed]) ?_
  refine (ofBody_pipeline_eq_ok_iff (BlockBody.isSettled_settled _)).mpr
    ⟨Nat.zero_le _, (name, concurrent, children, ()), ?_, rfl⟩
  simp [ReadsFields, Pipeline.fields, BlockBody.last, lastNamed, inside]

/-- A job is read as it was written when its blocks are. -/
theorem ofValueWithin_job {name description : String} {continueOnError : Bool}
    {needs : List String} {condition : Option String} {children : List Block}
    (inside : asList (ofValueWithin fuel true) (Json.list (listToJson children)).settled =
      .ok children) :
    ofValueWithin (fuel + 1) numbered
        (job name description continueOnError needs condition children).toJson.settled =
      .ok (job name description continueOnError needs condition children) := by
  refine ofValueWithin_object fuel numbered "job" (by simp [lastNamed, lastNamed_append]) ?_
  refine (ofBody_job_eq_ok_iff (BlockBody.isSettled_settled _)).mpr
    ⟨Nat.zero_le _, (name, description, continueOnError, needs, condition, children, ()), ?_, rfl⟩
  simp [ReadsFields, Job.fields, BlockBody.last, lastNamed, lastNamed_append, inside]

/-- The blocks of a block are lower than the object that it is. -/
theorem itemsHeight_children (type : Json) {children : List Block}
    {members : List (String × Json)} (types : lastNamed "type" members = some type)
    (found : lastNamed "children" members = some (.list (listToJson children)))
    (low : (Json.object members).settled.height ≤ fuel + 1) :
    itemsHeight (settledItems (listToJson children)) < fuel := by
  have apart : (Json.object members).takenApart = some (type, .named members) := by
    rw [takenApart, types]
    rfl
  have given : (BlockBody.named members).last 0 "children" = some (.list (listToJson children)) :=
    found
  have lower := BlockBody.height_last apart given
  rw [settled, height] at lower
  omega

mutual

/-- A block is read as it was written, with fuel for its height. -/
theorem ofValueWithin_toJson :
    (b : Block) → (fuel : Nat) → b.toJson.settled.height ≤ fuel + 1 → (numbered : Bool) →
      ofValueWithin (fuel + 1) numbered b.toJson.settled = .ok b
  | pipeline name concurrent children, fuel, low, numbered => by
    have inside := readEach_listToJson children fuel
      (itemsHeight_children fuel (.text "pipeline") (by simp [lastNamed]) (by simp [lastNamed]) low)
    exact ofValueWithin_pipeline fuel numbered inside
  | job name description continueOnError needs condition children, fuel, low, numbered => by
    have inside := readEach_listToJson children fuel
      (itemsHeight_children fuel (.text "job") (by simp [lastNamed, lastNamed_append])
        (by simp [lastNamed, lastNamed_append]) low)
    exact ofValueWithin_job fuel numbered inside
  | step s, fuel, _, numbered => ofValueWithin_step fuel numbered s
  | trigger t, fuel, _, numbered => ofValueWithin_trigger fuel numbered t
  | env v, fuel, _, numbered => ofValueWithin_env fuel numbered v
  | unknown, fuel, _, numbered => by
    refine ofValueWithin_object fuel numbered "unknown" (by simp [lastNamed]) ?_
    exact ofBody_unknown_eq_ok_iff.mpr ⟨rfl, rfl⟩

/-- Blocks are read as they were written, with fuel for the height of the tallest. -/
theorem readEach_listToJson :
    (blocks : List Block) → (fuel : Nat) → itemsHeight (settledItems (listToJson blocks)) < fuel →
      readEach (ofValueWithin fuel true) (settledItems (listToJson blocks)) = .ok blocks
  | [], _, _ => rfl
  | b :: blocks, 0, low => nomatch low
  | b :: blocks, fuel + 1, low => by
    rw [listToJson, settledItems, itemsHeight] at low
    rw [listToJson, settledItems, readEach, ofValueWithin_toJson b fuel (by omega) true,
      readEach_listToJson blocks (fuel + 1) (by omega)]
    rfl

end

/-! ## Texts -/

/-- There is no number in a text that may be left out. -/
@[simp] theorem haveNoNumber_optionalMember (name : String) (value : Option String) :
    HaveNoNumber (optionalMember name value) := by
  cases value <;> simp [optionalMember, HaveNoNumber, IsNumberless]

/-- There is no number in texts. -/
@[simp] theorem isNumberless_texts (items : List String) : IsNumberless (Json.texts items) :=
  areNumberless_map Json.text (fun _ => trivial) items

/-- There is no number in inputs. -/
@[simp] theorem areNumberless_inputs (inputs : List StepInput) :
    AreNumberless (inputs.map StepInput.toJson) :=
  areNumberless_map StepInput.toJson
    (fun i => by simp [StepInput.toJson, IsNumberless, HaveNoNumber]) inputs

/-- There is no number in a member that is left out under a condition. -/
@[simp] theorem haveNoNumber_ite (name : String) (value : Json) (absent : Prop)
    [Decidable absent] :
    HaveNoNumber (if absent then [] else [(name, value)]) ↔ absent ∨ IsNumberless value := by
  by_cases absent <;> simp_all [HaveNoNumber]

mutual

/-- There is no number in a written block. -/
theorem isNumberless_toJson : (b : Block) → IsNumberless b.toJson
  | pipeline _ _ children => by
    have inside := areNumberless_listToJson children
    simp [toJson, IsNumberless, HaveNoNumber, inside]
  | job _ _ _ needs condition children => by
    have inside := areNumberless_listToJson children
    simp [toJson, IsNumberless, HaveNoNumber, haveNoNumber_append, inside]
  | step s => by simp [toJson, Step.toJson, IsNumberless, HaveNoNumber, haveNoNumber_append]
  | trigger t => by simp [toJson, Trigger.toJson, IsNumberless, HaveNoNumber, haveNoNumber_append]
  | env v => by simp [toJson, EnvVar.toJson, IsNumberless, HaveNoNumber]
  | unknown => by simp [toJson, IsNumberless, HaveNoNumber]

/-- There is no number in written blocks. -/
theorem areNumberless_listToJson : (blocks : List Block) → AreNumberless (listToJson blocks)
  | [] => trivial
  | b :: blocks => ⟨isNumberless_toJson b, areNumberless_listToJson blocks⟩

end

end Block

namespace Pipeline

/-- The value of a pipeline is read as the pipeline. -/
theorem ofWorkspace_toJson (p : Pipeline) : ofWorkspace p.toJson.settled = .ok (some p) := by
  have read : Block.ofValue p.toJson.settled = .ok p.toBlock :=
    Block.ofValueWithin_toJson p.toBlock _ (Nat.le_succ _) false
  show (Block.ofValue p.toJson.settled >>= fun block => .ok (first [block])) = _
  rw [read]
  rfl

/-- A pipeline is read back from its text, unless it nests too deep for any text to be read. -/
theorem text_reads_back_iff (p : Pipeline) :
    parse p.toText = .ok (some p) ↔ p.toJson.nesting ≤ 127 := by
  have reads (value : Json) : Json.parse p.toText = .ok value ↔
      p.toJson.nesting ≤ Outline.maxDepth ∧ value = p.toJson.settled :=
    parse_toText_eq_ok_iff (Block.isNumberless_toJson p.toBlock)
  rw [parse, bind_eq_ok]
  constructor
  · rintro ⟨value, read, _⟩
    exact ((reads value).mp read).1
  · intro shallow
    exact ⟨_, (reads _).mpr ⟨shallow, rfl⟩, ofWorkspace_toJson p⟩

end Pipeline

end Pipewright
