import Pipewright.Block.Read
import Pipewright.Proofs.Json.Record

/-!
# What a block is read from

A block is read from the value of its type and, field by field, from what its body gives for each
field: the last member of the name of the field, or the item in its place (`BlockBody.last`). So the
reading of a block is told from the value as it stands in the text, although it is the settled value
that is read (`Block.ofValueWithin_settled_eq_ok_iff`).
-/
namespace Pipewright

open Json

namespace Json

/-- A member is no taller than the tallest. -/
theorem height_le_membersHeight {name : String} {value : Json} {members : List (String × Json)}
    (found : members.lookup name = some value) : value.height ≤ membersHeight members := by
  induction members with
  | nil => cases found
  | cons member members ih =>
    obtain ⟨other, first⟩ := member
    rw [lookup_cons_ite] at found
    rw [membersHeight]
    split at found
    · cases found
      exact le_max_left _ _
    · exact (ih found).trans (le_max_right _ _)

/-- An item is no taller than the tallest. -/
theorem height_le_itemsHeight {value : Json} {items : List Json} (among : value ∈ items) :
    value.height ≤ itemsHeight items := by
  induction items with
  | nil => cases among
  | cons item items ih =>
    rw [itemsHeight]
    cases among with
    | head => exact le_max_left _ _
    | tail _ among => exact (ih among).trans (le_max_right _ _)

/-- A field with a default has its name. -/
@[simp] theorem withDefault_name {α : Type} {name : String} {reading : Json → Except Fault α}
    {standing : α} : (FieldReader.withDefault name reading standing).name = name :=
  rfl

/-- A field that has to be there has its name. -/
@[simp] theorem required_name {α : Type} {name : String} {reading : Json → Except Fault α} :
    (FieldReader.required name reading).name = name :=
  rfl

/-- A default stands where nothing is given. -/
@[simp] theorem reads_withDefault_none {α : Type} {name : String} {reading : Json → Except Fault α}
    {value standing : α} :
    (FieldReader.withDefault name reading standing).Reads none value ↔ standing = value :=
  Option.some_inj

/-- A value is read where one is given. -/
@[simp] theorem reads_withDefault_some {α : Type} {name : String} {reading : Json → Except Fault α}
    {value standing : α} {node : Json} :
    (FieldReader.withDefault name reading standing).Reads (some node) value ↔
      reading node = .ok value :=
  Iff.rfl

/-- A value that has to be there is read. -/
@[simp] theorem reads_required_some {α : Type} {name : String} {reading : Json → Except Fault α}
    {value : α} {node : Json} :
    (FieldReader.required name reading).Reads (some node) value ↔ reading node = .ok value :=
  Iff.rfl

/-- Fields with distinct names, each with the same that stands for it in an object and in a
list. -/
structure AreAlike (fields : List (FieldReader Json)) : Prop where
  /-- Their names are distinct. -/
  distinct : (fieldNames fields).Nodup
  /-- What stands for a field does so in both. -/
  alike : ∀ field ∈ fields, field.beyond = field.unnamed

end Json

namespace BlockBody

/-- What a body gives for the field of a place and a name. -/
def given : BlockBody → Nat → String → Option Json
  | named members, _, name => members.lookup name
  | inOrder items, place, _ => items[place]?

/-- The number of fields that a body gives by their places. -/
def count : BlockBody → Nat
  | named _ => 0
  | inOrder items => items.length

/-- Whether the names of a body are distinct. -/
def IsSettled : BlockBody → Prop
  | named members => HaveDistinctNames members
  | inOrder _ => True

/-- A record is read from a body field by field. -/
theorem record_eq_ok_iff {body : BlockBody} (settled : body.IsSettled) {name : String}
    {fields : List (FieldReader Json)} (alike : AreAlike fields) {values : Values fields} :
    body.record name fields = .ok values ↔
      body.count ≤ fields.length ∧ ReadsFields body.given fields values := by
  cases body with
  | named members =>
    exact (recordOfMembers_eq_ok_iff settled alike.distinct).trans
      (iff_and_self.mpr fun _ => Nat.zero_le _)
  | inOrder items => exact recordOfItems_eq_ok_iff alike.alike

/-- What is made of a record is made of values that are read field by field. -/
theorem record_bind_eq_ok_iff {body : BlockBody} (settled : body.IsSettled) {name : String}
    {fields : List (FieldReader Json)} (alike : AreAlike fields) (make : Values fields → Block)
    {b : Block} :
    (body.record name fields >>= fun values => .ok (make values)) = .ok b ↔
      body.count ≤ fields.length ∧
        ∃ values, ReadsFields body.given fields values ∧ make values = b := by
  rw [bind_eq_ok]
  simp only [record_eq_ok_iff settled alike, Except.ok.injEq, and_assoc, exists_and_left]

/-! ## Taking values apart -/

/-- Members without a type are left together. -/
theorem split_of_absent {numbered : Bool} {kind : Option BlockKind}
    {members : List (String × Json)} (absent : ∀ member ∈ members, member.1 ≠ "type") :
    split numbered kind members = .ok (kind, members) := by
  induction members with
  | nil => rfl
  | cons member members ih =>
    have first := absent member List.mem_cons_self
    have later := ih fun other among => absent other (List.mem_cons_of_mem _ among)
    rw [split.eq_def]
    simp only [if_neg first, later]
    rfl

/-- The members other than the type. -/
def besidesType (members : List (String × Json)) : List (String × Json) :=
  members.filter fun member => member.1 ≠ "type"

/-- Members of distinct names are taken apart into the kind that their type gives and the
others. -/
theorem split_eq_ok_iff {numbered : Bool} {members rest : List (String × Json)}
    (distinct : HaveDistinctNames members) {kind : BlockKind} :
    split numbered none members = .ok (some kind, rest) ↔
      ∃ value, members.lookup "type" = some value ∧ BlockKind.ofValue numbered value = .ok kind ∧
        besidesType members = rest := by
  induction members generalizing rest with
  | nil => simp [split]
  | cons member members ih =>
    obtain ⟨name, value⟩ := member
    obtain ⟨apart, distinct⟩ := List.nodup_cons.mp distinct
    rw [split.eq_def, lookup_cons_ite]
    by_cases type : name = "type"
    · subst type
      have absent : ∀ member ∈ members, member.1 ≠ "type" := fun member among same =>
        apart (List.mem_map.mpr ⟨member, among, same⟩)
      have whole : besidesType (("type", value) :: members) = members := by
        rw [besidesType, List.filter_cons_of_neg (by simp)]
        exact List.filter_eq_self.mpr fun member among => decide_eq_true (absent member among)
      simp [whole, bind_eq_ok, split_of_absent absent]
    · have whole : besidesType ((name, value) :: members) =
          (name, value) :: besidesType members :=
        List.filter_cons_of_pos (decide_eq_true type)
      simp only [if_neg type, if_neg (Ne.symm type), whole, bind_eq_ok, Prod.exists,
        Except.ok.injEq, Prod.mk.injEq]
      constructor
      · rintro ⟨_, rest, taken, rfl, rfl⟩
        obtain ⟨found, here, kinds, rfl⟩ := (ih distinct).mp taken
        exact ⟨found, here, kinds, rfl⟩
      · rintro ⟨found, here, kinds, rfl⟩
        exact ⟨some kind, _, (ih distinct).mpr ⟨found, here, kinds, rfl⟩, rfl, rfl⟩

/-- A field other than the type is given by the members besides it. -/
theorem lookup_besidesType {name : String} (other : name ≠ "type")
    (members : List (String × Json)) :
    (besidesType members).lookup name = members.lookup name := by
  induction members with
  | nil => rfl
  | cons member members ih =>
    obtain ⟨first, value⟩ := member
    by_cases type : first = "type"
    · have skipped : besidesType ((first, value) :: members) = besidesType members :=
        List.filter_cons_of_neg (by simp [type])
      rw [skipped, ih, lookup_cons_ite, if_neg (type ▸ other)]
    · have kept : besidesType ((first, value) :: members) =
          (first, value) :: besidesType members :=
        List.filter_cons_of_pos (decide_eq_true type)
      rw [kept, lookup_cons_ite, lookup_cons_ite, ih]

/-- The names besides the type are distinct. -/
theorem haveDistinctNames_besidesType {members : List (String × Json)}
    (distinct : HaveDistinctNames members) : HaveDistinctNames (besidesType members) :=
  distinct.sublist (List.Sublist.map Prod.fst List.filter_sublist)

/-- An object of distinct names is taken apart into the kind that its type gives and the others of
its members. -/
theorem ofValue_object_eq_ok_iff {numbered : Bool} {members : List (String × Json)}
    (distinct : HaveDistinctNames members) {kind : BlockKind} {body : BlockBody} :
    ofValue numbered (.object members) = .ok (kind, body) ↔
      ∃ value, members.lookup "type" = some value ∧ BlockKind.ofValue numbered value = .ok kind ∧
        named (besidesType members) = body := by
  rw [ofValue, bind_eq_ok]
  constructor
  · rintro ⟨⟨_ | found, rest⟩, taken, same⟩
    · cases same
    · cases same
      obtain ⟨value, here, kinds, rfl⟩ := (split_eq_ok_iff distinct).mp taken
      exact ⟨value, here, kinds, rfl⟩
  · rintro ⟨value, here, kinds, rfl⟩
    exact ⟨(some kind, _), (split_eq_ok_iff distinct).mpr ⟨value, here, kinds, rfl⟩, rfl⟩

/-- A list is taken apart into the kind that its first item gives and the others of its items. -/
theorem ofValue_list_eq_ok_iff {numbered : Bool} {first : Json} {items : List Json}
    {kind : BlockKind} {body : BlockBody} :
    ofValue numbered (.list (first :: items)) = .ok (kind, body) ↔
      BlockKind.ofValue numbered first = .ok kind ∧ inOrder items = body := by
  rw [ofValue, bind_eq_ok]
  simp

/-! ## Before settling -/

/-- What a body gives for the field of a place and a name once it is settled. -/
def last : BlockBody → Nat → String → Option Json
  | named members, _, name => lastNamed name members
  | inOrder items, place, _ => items[place]?

/-- A body as it is read. -/
def settled : BlockBody → BlockBody
  | named members => named (besidesType (settledMembers [] members))
  | inOrder items => inOrder (settledItems items)

/-- The names of a settled body are distinct. -/
theorem isSettled_settled (body : BlockBody) : body.settled.IsSettled := by
  cases body with
  | named members => exact haveDistinctNames_besidesType (haveDistinctNames_settledMembers members)
  | inOrder items => trivial

/-- Settling leaves the number of fields that are given by their places. -/
@[simp] theorem count_settled (body : BlockBody) : body.settled.count = body.count := by
  cases body with
  | named members => rfl
  | inOrder items => simp [settled, count, settledItems_eq_map]

/-- A settled body gives for a field the settled value of the last that there was. -/
@[simp] theorem given_settled {name : String} (other : name ≠ "type") (body : BlockBody)
    (place : Nat) : body.settled.given place name = (body.last place name).map Json.settled := by
  cases body with
  | named members =>
    exact (lookup_besidesType other _).trans (lookup_settledMembers name members)
  | inOrder items => simp [settled, given, last, settledItems_eq_map]

end BlockBody

/-- The value of the type of a block, and its body. -/
def Json.takenApart : Json → Option (Json × BlockBody)
  | .object members => (lastNamed "type" members).map fun type => (type, .named members)
  | .list (type :: items) => some (type, .inOrder items)
  | _ => none

/-- Settling leaves the kind that a value gives. -/
theorem BlockKind.ofValue_settled (numbered : Bool) (value : Json) :
    BlockKind.ofValue numbered value.settled = BlockKind.ofValue numbered value := by
  cases value <;> rfl

/-- A settled value is taken apart into its kind and its settled body. -/
theorem BlockBody.ofValue_settled_eq_ok_iff {numbered : Bool} {value : Json} {kind : BlockKind}
    {body : BlockBody} :
    ofValue numbered value.settled = .ok (kind, body) ↔
      ∃ type raw, value.takenApart = some (type, raw) ∧
        BlockKind.ofValue numbered type = .ok kind ∧ raw.settled = body := by
  match value with
  | .object members =>
    rw [Json.settled, ofValue_object_eq_ok_iff (haveDistinctNames_settledMembers members),
      lookup_settledMembers, takenApart]
    cases lastNamed "type" members with
    | none => simp
    | some type => simp [BlockBody.settled, BlockKind.ofValue_settled]
  | .list (type :: items) =>
    rw [Json.settled, settledItems, ofValue_list_eq_ok_iff, BlockKind.ofValue_settled]
    simp [takenApart, BlockBody.settled]
  | .list [] => exact iff_of_false nofun (fun apart => nomatch apart)
  | .null | .bool _ | .number _ | .text _ => exact iff_of_false nofun (fun apart => nomatch apart)

/-- What a body gives is lower than the value that it was taken from. -/
theorem BlockBody.height_last {value type found : Json} {body : BlockBody} {place : Nat}
    {name : String} (apart : value.takenApart = some (type, body))
    (given : body.last place name = some found) :
    found.settled.height < value.settled.height := by
  match value, apart with
  | .object members, apart =>
    obtain ⟨_, _, same⟩ := Option.map_eq_some_iff.mp apart
    cases same
    have member : (settledMembers [] members).lookup name = some found.settled := by
      rw [lookup_settledMembers, show lastNamed name members = some found from given]
      rfl
    exact Nat.lt_succ_of_le (height_le_membersHeight member)
  | .list (_ :: items), rfl =>
    have item : found.settled ∈ settledItems items := by
      rw [settledItems_eq_map]
      exact List.mem_map_of_mem (List.mem_of_getElem? given)
    have lower := height_le_itemsHeight (List.mem_cons_of_mem type.settled item)
    exact Nat.lt_succ_of_le lower

/-! ## Fields -/

/-- The fields of an input are alike. -/
theorem StepInput.areAlike_fields :
    AreAlike [.required "key" asText, .required "value" asText] where
  distinct := by
    show ["key", "value"].Nodup
    decide
  alike := by simp [FieldReader.required]

/-- The fields of a step are alike. -/
theorem Step.areAlike_fields : AreAlike Step.fields where
  distinct := by
    show ["name", "args", "with"].Nodup
    decide
  alike := by simp [Step.fields, FieldReader.withDefault]

/-- The fields of a trigger are alike. -/
theorem Trigger.areAlike_fields : AreAlike Trigger.fields where
  distinct := by
    show ["event", "branches", "cron"].Nodup
    decide
  alike := by simp [Trigger.fields, FieldReader.withDefault, FieldReader.required]

/-- The fields of an environment variable are alike. -/
theorem EnvVar.areAlike_fields : AreAlike EnvVar.fields where
  distinct := by
    show ["key", "value"].Nodup
    decide
  alike := by simp [EnvVar.fields, FieldReader.withDefault, FieldReader.required]

/-- The fields of a pipeline are alike. -/
theorem Pipeline.areAlike_fields (block : Json → Except Fault Block) :
    AreAlike (Pipeline.fields block) where
  distinct := by
    show ["name", "concurrent", "children"].Nodup
    decide
  alike := by simp [Pipeline.fields, FieldReader.withDefault]

/-- The fields of a job are alike. -/
theorem Job.areAlike_fields (block : Json → Except Fault Block) :
    AreAlike (Job.fields block) where
  distinct := by
    show ["name", "description", "continue_on_error", "needs", "condition", "children"].Nodup
    decide
  alike := by simp [Job.fields, FieldReader.withDefault]

namespace Block

variable {block : Json → Except Fault Block} {body : BlockBody} {b : Block}

/-- A pipeline is read field by field. -/
theorem ofBody_pipeline_eq_ok_iff (settled : body.IsSettled) :
    ofBody block .pipeline body = .ok b ↔
      body.count ≤ 3 ∧ ∃ values : Values (Pipeline.fields block),
        ReadsFields body.given (Pipeline.fields block) values ∧
          pipeline values.1 values.2.1 values.2.2.1 = b :=
  BlockBody.record_bind_eq_ok_iff settled (Pipeline.areAlike_fields block)
    fun values => pipeline values.1 values.2.1 values.2.2.1

/-- A job is read field by field. -/
theorem ofBody_job_eq_ok_iff (settled : body.IsSettled) :
    ofBody block .job body = .ok b ↔
      body.count ≤ 6 ∧ ∃ values : Values (Job.fields block),
        ReadsFields body.given (Job.fields block) values ∧
          job values.1 values.2.1 values.2.2.1 values.2.2.2.1 values.2.2.2.2.1
            values.2.2.2.2.2.1 = b :=
  BlockBody.record_bind_eq_ok_iff settled (Job.areAlike_fields block)
    fun values => job values.1 values.2.1 values.2.2.1 values.2.2.2.1 values.2.2.2.2.1
      values.2.2.2.2.2.1

/-- A step is read field by field. -/
theorem ofBody_step_eq_ok_iff (settled : body.IsSettled) :
    ofBody block .step body = .ok b ↔
      body.count ≤ 3 ∧ ∃ values : Values Step.fields,
        ReadsFields body.given Step.fields values ∧
          step ⟨values.1, values.2.1, values.2.2.1⟩ = b :=
  BlockBody.record_bind_eq_ok_iff settled Step.areAlike_fields
    fun values => step ⟨values.1, values.2.1, values.2.2.1⟩

/-- A trigger is read field by field. -/
theorem ofBody_trigger_eq_ok_iff (settled : body.IsSettled) :
    ofBody block .trigger body = .ok b ↔
      body.count ≤ 3 ∧ ∃ values : Values Trigger.fields,
        ReadsFields body.given Trigger.fields values ∧
          trigger ⟨values.1, values.2.1, values.2.2.1⟩ = b :=
  BlockBody.record_bind_eq_ok_iff settled Trigger.areAlike_fields
    fun values => trigger ⟨values.1, values.2.1, values.2.2.1⟩

/-- An environment variable is read field by field. -/
theorem ofBody_env_eq_ok_iff (settled : body.IsSettled) :
    ofBody block .env body = .ok b ↔
      body.count ≤ 2 ∧ ∃ values : Values EnvVar.fields,
        ReadsFields body.given EnvVar.fields values ∧ env ⟨values.1, values.2.1⟩ = b :=
  BlockBody.record_bind_eq_ok_iff settled EnvVar.areAlike_fields
    fun values => env ⟨values.1, values.2.1⟩

/-- Anything is an unknown block that gives nothing by its place. -/
theorem ofBody_unknown_eq_ok_iff :
    ofBody block .unknown body = .ok b ↔ body.count = 0 ∧ unknown = b := by
  match body with
  | .named _ => simp [ofBody, BlockBody.count]
  | .inOrder [] => simp [ofBody, BlockBody.count]
  | .inOrder (_ :: _) => simp [ofBody, BlockBody.count]

/-- A settled value is read as a block of the kind that its type gives, made of its settled body. -/
theorem ofValueWithin_settled_eq_ok_iff {fuel : Nat} {numbered : Bool} {value : Json} :
    ofValueWithin (fuel + 1) numbered value.settled = .ok b ↔
      ∃ type raw kind, value.takenApart = some (type, raw) ∧
        BlockKind.ofValue numbered type = .ok kind ∧
        ofBody (ofValueWithin fuel true) kind raw.settled = .ok b := by
  rw [ofValueWithin, bind_eq_ok]
  constructor
  · rintro ⟨⟨kind, _⟩, taken, read⟩
    obtain ⟨type, raw, apart, kinds, rfl⟩ := BlockBody.ofValue_settled_eq_ok_iff.mp taken
    exact ⟨type, raw, kind, apart, kinds, read⟩
  · rintro ⟨type, raw, kind, apart, kinds, read⟩
    exact ⟨(kind, raw.settled),
      BlockBody.ofValue_settled_eq_ok_iff.mpr ⟨type, raw, apart, kinds, rfl⟩, read⟩

end Block

end Pipewright
