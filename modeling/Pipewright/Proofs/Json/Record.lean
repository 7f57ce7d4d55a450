import Pipewright.Json.Value
import Pipewright.Proofs.Json.Reading
import Pipewright.Proofs.Json.Settled

/-!
# Records field by field

A record that is read one member after another is read field by field: each field from the value
that is given for it, or from what stands for it when none is (`ReadsFields`). The order of the
members is of no account as long as their names are distinct (`recordOfMembers_eq_ok_iff`), and the
items of a list are given by their places (`recordOfItems_eq_ok_iff`).
-/
namespace Pipewright.Json

/-- Whether a value is that of a field, read from what is given for it or else what stands for
it. -/
def FieldReader.Reads (field : FieldReader Json) : Option Json → field.Value → Prop
  | some node, value => field.reading node = .ok value
  | none, value => field.unnamed = some value

/-- A field is read alike from what is given alike. -/
theorem FieldReader.Reads.congr {field : FieldReader Json} {given given' : Option Json}
    {value : field.Value} (read : field.Reads given value) (same : given' = given) :
    field.Reads given' value :=
  same ▸ read

/-- Whether values are those of fields, each read from what is given for its place and its name. -/
def ReadsFields (given : Nat → String → Option Json) :
    (fields : List (FieldReader Json)) → Values fields → Prop
  | [], _ => True
  | field :: fields, (value, values) =>
    field.Reads (given 0 field.name) value ∧
      ReadsFields (fun place => given (place + 1)) fields values

/-- The names of fields. -/
def fieldNames (fields : List (FieldReader Json)) : List String := fields.map FieldReader.name

/-- Fields are read alike from what is given alike for their names. -/
theorem ReadsFields.congr {given given' : Nat → String → Option Json}
    {fields : List (FieldReader Json)} {values : Values fields}
    (read : ReadsFields given fields values)
    (same : ∀ place, ∀ name ∈ fieldNames fields, given' place name = given place name) :
    ReadsFields given' fields values := by
  induction fields generalizing given given' with
  | nil => trivial
  | cons field fields ih =>
    obtain ⟨value, values⟩ := values
    exact ⟨read.1.congr (same 0 _ List.mem_cons_self),
      ih read.2 fun place name among => same (place + 1) name (List.mem_cons_of_mem _ among)⟩

/-! ## Members -/

/-- Whether a slot is filled from what is given for its field; it stays as it is when nothing
is. -/
def FieldReader.Fills (field : FieldReader Json) :
    Option Json → Option field.Value → Option field.Value → Prop
  | some node, slot, slot' =>
    slot = none ∧ ∃ value, field.reading node = .ok value ∧ some value = slot'
  | none, slot, slot' => slot = slot'

namespace Slots

/-- Whether slots are filled from what is given for the names of their fields. -/
def Filled (given : String → Option Json) :
    (fields : List (FieldReader Json)) → Slots fields → Slots fields → Prop
  | [], _, _ => True
  | field :: fields, (slot, slots), (slot', slots') =>
    field.Fills (given field.name) slot slot' ∧ Filled given fields slots slots'

variable {given given' : String → Option Json} {field : FieldReader Json}
  {fields : List (FieldReader Json)}

/-- Slots are filled one by one. -/
theorem filled_cons {slot slot' : Option field.Value} {slots slots' : Slots fields} :
    Filled given (field :: fields) (slot, slots) (slot', slots') ↔
      field.Fills (given field.name) slot slot' ∧ Filled given fields slots slots' :=
  Iff.rfl

/-- A member that is read into a slot fills the slot of its name. -/
theorem fill_eq_ok_iff {name : String} {node : Json} {slot slot' : Option field.Value}
    {slots slots' : Slots fields} :
    fill (fun _ => .ok ()) name node (field :: fields) (slot, slots) = .ok (slot', slots') ↔
      if name = field.name then field.Fills (some node) slot slot' ∧ slots = slots'
      else slot = slot' ∧ fill (fun _ => .ok ()) name node fields slots = .ok slots' := by
  have later : fill (fun _ => .ok ()) name node fields slots >>=
      (fun slots => Except.ok (ε := Fault) (α := Slots (field :: fields)) (slot, slots)) =
        .ok (slot', slots') ↔
      slot = slot' ∧ fill (fun _ => .ok ()) name node fields slots = .ok slots' := by
    refine bind_eq_ok.trans ⟨?_, ?_⟩
    · rintro ⟨rest, filled, same⟩
      obtain ⟨rfl, rfl⟩ := Prod.mk.inj (Except.ok.inj same)
      exact ⟨rfl, filled⟩
    · rintro ⟨rfl, filled⟩
      exact ⟨slots', filled, rfl⟩
  cases slot with
  | none =>
    rw [fill.eq_3]
    split
    · refine bind_eq_ok.trans ⟨?_, ?_⟩
      · rintro ⟨value, read, same⟩
        obtain ⟨rfl, rfl⟩ := Prod.mk.inj (Except.ok.inj same)
        exact ⟨⟨rfl, value, read, rfl⟩, rfl⟩
      · rintro ⟨⟨_, value, read, rfl⟩, rfl⟩
        exact ⟨value, read, rfl⟩
    · exact later
  | some old =>
    rw [fill.eq_2]
    split
    · exact iff_of_false nofun (fun filled => nomatch filled.1.1)
    · exact later

/-- Slots are filled from what is given for their fields and from nothing else. -/
theorem filled_congr (same : ∀ name ∈ fieldNames fields, given name = given' name)
    (slots slots' : Slots fields) :
    Filled given fields slots slots' ↔ Filled given' fields slots slots' := by
  induction fields with
  | nil => exact Iff.rfl
  | cons field fields ih =>
    obtain ⟨slot, slots⟩ := slots
    obtain ⟨slot', slots'⟩ := slots'
    have first : given field.name = given' field.name := same _ List.mem_cons_self
    have later := ih fun name among => same name (List.mem_cons_of_mem _ among)
    rw [filled_cons, filled_cons, first, later]

/-- Where nothing is given slots stay as they are. -/
theorem filled_nothing (slots slots' : Slots fields) :
    Filled (fun _ => none) fields slots slots' ↔ slots = slots' := by
  induction fields with
  | nil => exact iff_of_true trivial rfl
  | cons field fields ih =>
    obtain ⟨slot, slots⟩ := slots
    obtain ⟨slot', slots'⟩ := slots'
    rw [filled_cons, ih]
    exact Prod.mk_inj.symm

/-- A member that no field is named for fills no slot. -/
theorem filled_lookup_cons_of_notMem {name : String} {node : Json}
    {members : List (String × Json)} (apart : name ∉ fieldNames fields)
    (slots slots' : Slots fields) :
    Filled (((name, node) :: members).lookup ·) fields slots slots' ↔
      Filled (members.lookup ·) fields slots slots' := by
  refine filled_congr (fun other among => ?_) slots slots'
  have different : other ≠ name := fun same => apart (same ▸ among)
  simp only [lookup_cons_ite, if_neg different]

/-- Slots are filled from a member and those after it by filling in the member first. -/
theorem filled_lookup_cons {name : String} {node : Json} {members : List (String × Json)}
    (new : members.lookup name = none) (distinct : (fieldNames fields).Nodup)
    (slots slots' : Slots fields) :
    Filled (((name, node) :: members).lookup ·) fields slots slots' ↔
      ∃ between, fill (fun _ => .ok ()) name node fields slots = .ok between ∧
        Filled (members.lookup ·) fields between slots' := by
  induction fields with
  | nil => exact iff_of_true trivial ⟨(), rfl, trivial⟩
  | cons field fields ih =>
    obtain ⟨slot, slots⟩ := slots
    obtain ⟨slot', slots'⟩ := slots'
    obtain ⟨apart, distinct⟩ := List.nodup_cons.mp distinct
    rw [filled_cons, lookup_cons_ite]
    by_cases same : field.name = name
    · subst same
      rw [if_pos rfl, filled_lookup_cons_of_notMem apart]
      constructor
      · rintro ⟨first, rest⟩
        exact ⟨(slot', slots), fill_eq_ok_iff.mpr (if_pos rfl ▸ ⟨first, rfl⟩),
          filled_cons.mpr ⟨new ▸ rfl, rest⟩⟩
      · rintro ⟨⟨middle, rest⟩, filled, later⟩
        rw [fill_eq_ok_iff, if_pos rfl] at filled
        rw [filled_cons, new] at later
        obtain ⟨first, rfl⟩ := filled
        obtain ⟨rfl, later⟩ := later
        exact ⟨first, later⟩
    · rw [if_neg same, ih distinct]
      constructor
      · rintro ⟨first, between, filled, rest⟩
        exact ⟨(slot, between), fill_eq_ok_iff.mpr (if_neg (Ne.symm same) ▸ ⟨rfl, filled⟩),
          filled_cons.mpr ⟨first, rest⟩⟩
      · rintro ⟨⟨middle, between⟩, filled, later⟩
        rw [fill_eq_ok_iff, if_neg (Ne.symm same)] at filled
        obtain ⟨rfl, filled⟩ := filled
        obtain ⟨first, rest⟩ := filled_cons.mp later
        exact ⟨first, between, filled, rest⟩

/-- Members of distinct names fill the slots of their names. -/
theorem fillAll_eq_ok_iff {members : List (String × Json)} (settled : HaveDistinctNames members)
    (distinct : (fieldNames fields).Nodup) {slots slots' : Slots fields} :
    fillAll (fun _ => .ok ()) fields slots (members.map fun (name, node) => (.ok name, node)) =
        .ok slots' ↔ Filled (members.lookup ·) fields slots slots' := by
  induction members generalizing slots with
  | nil => exact Iff.trans ⟨Except.ok.inj, congrArg _⟩ (filled_nothing slots slots').symm
  | cons member members ih =>
    obtain ⟨name, node⟩ := member
    obtain ⟨apart, settled⟩ := List.nodup_cons.mp settled
    have new : members.lookup name = none := by
      rw [List.lookup_eq_none_iff]
      rintro ⟨other, value⟩ among
      have different : name ≠ other := fun same =>
        apart (List.mem_map.mpr ⟨_, among, same.symm⟩)
      simpa using different
    rw [filled_lookup_cons new distinct]
    simp only [List.map_cons, fillAll, bind_eq_ok, ← ih settled, Except.ok.injEq]
    simp

/-- A value of a slot, or what stands for it, with those of the other slots. -/
theorem complete_eq_ok_iff {slot : Option field.Value} {slots : Slots fields}
    {value : field.Value} {values : Values fields} :
    complete (field :: fields) (slot, slots) = .ok (value, values) ↔
      slot.or field.unnamed = some value ∧ complete fields slots = .ok values := by
  rw [complete.eq_2]
  cases slot.or field.unnamed with
  | none => exact iff_of_false nofun (fun whole => nomatch whole.1)
  | some first =>
    refine bind_eq_ok.trans ⟨?_, ?_⟩
    · rintro ⟨rest, whole, same⟩
      obtain ⟨rfl, rfl⟩ := Prod.mk.inj (Except.ok.inj same)
      exact ⟨rfl, whole⟩
    · rintro ⟨same, whole⟩
      cases same
      exact ⟨values, whole, rfl⟩

/-- A slot that is filled from what is given holds the value of its field. -/
theorem fills_empty_iff {node : Option Json} {value : field.Value} :
    (∃ slot, field.Fills node none slot ∧ slot.or field.unnamed = some value) ↔
      field.Reads node value := by
  cases node with
  | none => simp [FieldReader.Fills, FieldReader.Reads]
  | some node =>
    constructor
    · rintro ⟨_, ⟨_, found, read, rfl⟩, same⟩
      cases same
      exact read
    · exact fun read => ⟨some value, ⟨rfl, value, read, rfl⟩, rfl⟩

/-- The values of slots that are filled from what is given are those of the fields. -/
theorem complete_filled_iff {values : Values fields} :
    (∃ slots, Filled given fields (empty fields) slots ∧ complete fields slots = .ok values) ↔
      ReadsFields (fun _ => given) fields values := by
  induction fields with
  | nil => exact iff_of_true ⟨(), trivial, rfl⟩ trivial
  | cons field fields ih =>
    obtain ⟨value, values⟩ := values
    rw [ReadsFields, ← ih, ← fills_empty_iff]
    constructor
    · rintro ⟨⟨slot, slots⟩, filled, whole⟩
      obtain ⟨first, rest⟩ := filled_cons.mp filled
      obtain ⟨found, whole⟩ := complete_eq_ok_iff.mp whole
      exact ⟨⟨slot, first, found⟩, slots, rest, whole⟩
    · rintro ⟨⟨slot, first, found⟩, slots, rest, whole⟩
      exact ⟨(slot, slots), filled_cons.mpr ⟨first, rest⟩, complete_eq_ok_iff.mpr ⟨found, whole⟩⟩

end Slots

/-- A record is read from members of distinct names field by field. -/
theorem recordOfMembers_eq_ok_iff {members : List (String × Json)}
    (settled : HaveDistinctNames members) {fields : List (FieldReader Json)}
    (distinct : (fieldNames fields).Nodup) {values : Values fields} :
    recordOfMembers fields members = .ok values ↔
      ReadsFields (fun _ name => members.lookup name) fields values := by
  rw [← Slots.complete_filled_iff]
  simp only [recordOfMembers, readMembers, bind_eq_ok, Slots.fillAll_eq_ok_iff settled distinct]
  simp

/-! ## Items -/

/-- A field takes its value, whether read or standing for it, and leaves the others to the rest. -/
theorem taken_eq_ok_iff {field : FieldReader Json} {fields : List (FieldReader Json)}
    {found value : field.Value} {values : Values fields} {left : List Json}
    {rest : Except Fault (Values fields × List Json)} :
    (rest >>= fun read => Except.ok (ε := Fault) (α := Values (field :: fields) × List Json)
      ((found, read.1), read.2)) = .ok ((value, values), left) ↔
      found = value ∧ rest = .ok (values, left) := by
  refine bind_eq_ok.trans ⟨?_, ?_⟩
  · rintro ⟨⟨others, last⟩, read, same⟩
    obtain ⟨whole, rfl⟩ := Prod.mk.inj (Except.ok.inj same)
    obtain ⟨rfl, rfl⟩ := Prod.mk.inj whole
    exact ⟨rfl, read⟩
  · rintro ⟨rfl, read⟩
    exact ⟨_, read, rfl⟩

/-- Fields are read from items in order, each field whose item is missing from what stands for
it. -/
theorem readItems_eq_ok_iff {name : String} {count index : Nat}
    {fields : List (FieldReader Json)} (alike : ∀ field ∈ fields, field.beyond = field.unnamed)
    {items left : List Json} {values : Values fields} :
    readItems name count (.ok ()) index fields items = .ok (values, left) ↔
      ReadsFields (fun place _ => items[place]?) fields values ∧
        items.drop fields.length = left := by
  induction fields generalizing items index with
  | nil =>
    refine Iff.trans ⟨Except.ok.inj, congrArg _⟩ (Iff.trans Prod.mk_inj ?_)
    exact and_congr (iff_of_true rfl trivial) Iff.rfl
  | cons field fields ih =>
    obtain ⟨value, values⟩ := values
    have alike' : ∀ field ∈ fields, field.beyond = field.unnamed :=
      fun other among => alike other (List.mem_cons_of_mem _ among)
    cases items with
    | nil =>
      have first := alike field List.mem_cons_self
      rw [readItems.eq_2, ReadsFields, and_assoc]
      cases beyond : field.beyond with
      | none =>
        have absent : field.unnamed = none := first.symm.trans beyond
        exact iff_of_false nofun (fun read => nomatch absent.symm.trans read.1)
      | some found =>
        have present : field.unnamed = some found := first.symm.trans beyond
        have same : field.Reads none value ↔ found = value := by
          rw [FieldReader.Reads, present, Option.some_inj]
        refine taken_eq_ok_iff.trans ?_
        rw [ih alike', List.drop_nil, List.drop_nil]
        exact and_congr_left fun _ => same.symm
    | cons item items =>
      rw [readItems.eq_3, ReadsFields, and_assoc]
      refine bind_eq_ok.trans ⟨?_, ?_⟩
      · rintro ⟨found, read, rest⟩
        obtain ⟨rfl, others⟩ := taken_eq_ok_iff.mp rest
        exact ⟨read, (ih alike').mp others⟩
      · rintro ⟨read, rest⟩
        exact ⟨value, read, taken_eq_ok_iff.mpr ⟨rfl, (ih alike').mpr rest⟩⟩

/-- A record is read from a list field by field, and takes all its items. -/
theorem recordOfItems_eq_ok_iff {name : String} {fields : List (FieldReader Json)}
    (alike : ∀ field ∈ fields, field.beyond = field.unnamed) {items : List Json}
    {values : Values fields} :
    recordOfItems name fields items = .ok values ↔
      items.length ≤ fields.length ∧ ReadsFields (fun place _ => items[place]?) fields values := by
  rw [recordOfItems]
  refine bind_eq_ok.trans ⟨?_, ?_⟩
  · rintro ⟨⟨found, left⟩, read, whole⟩
    obtain ⟨asFields, rfl⟩ := (readItems_eq_ok_iff alike).mp read
    replace whole : (if (items.drop fields.length).isEmpty then Except.ok found
      else .error (Fault.shape (.tooMany items.length fields.length))) = .ok values := whole
    split at whole
    · rename_i short
      obtain rfl := Except.ok.inj whole
      exact ⟨List.drop_eq_nil_iff.mp (List.isEmpty_iff.mp short), asFields⟩
    · cases whole
  · rintro ⟨short, read⟩
    refine ⟨(values, []), (readItems_eq_ok_iff alike).mpr ⟨read, ?_⟩, rfl⟩
    exact List.drop_eq_nil_of_le short

end Pipewright.Json
