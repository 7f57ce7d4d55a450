import Pipewright.Json.Record
import Pipewright.Proofs.Json.Writing

/-!
# Reading back what was written

A reading gives a value back from the JSON value it was written as (`Conveys`) when that is spelled
and the reading takes every outline of it to the value. Each way of reading keeps this: of parts,
of lists, of kinds by their names, and of records whose fields are written in order
(`conveys_record`). What is conveyed is read back from both of its texts
(`Conveys.ofText_toText`, `Conveys.ofText_toPrettyText`). Conversely every value of a record that
was read comes from its field (`areGiven_of_record`).
-/
namespace Pipewright.Json

/-! ## The outline of a value -/

/-- The ways in which an outline makes a value. -/
inductive Outline.Yields : Outline → Json → Prop where
  /-- Null makes null. -/
  | null : Yields .null .null
  /-- A truth value makes itself. -/
  | bool (b : Bool) : Yields (.bool b) (.bool b)
  /-- A numeral makes the number that it is. -/
  | number {numeral : Numeral} {n : Number} (counts : numeral.value = .ok n) :
      Yields (.number numeral) (.number n)
  /-- A quoted text makes the text that it is read as. -/
  | text {quoted : Quoted} {s : String} (read : quoted.read = .ok s) :
      Yields (.text quoted) (.text s)
  /-- A list makes the values of its items. -/
  | list {start below : Nat} {items : List Outline} {close : Close} {values : List Json}
      (each : strictItems below items = .ok values) (ended : close.check = .ok ()) :
      Yields (.list start items close) (.list values)
  /-- An object makes the values of its members. -/
  | object {start below : Nat} {members : List (Quoted × Outline)} {bare : Option Outline}
      {close : Close} {values : List (String × Json)}
      (each : strictMembers below members = .ok values) (ended : close.check = .ok ()) :
      Yields (.object start members bare close) (.object values)

/-- An outline makes a value in one of these ways. -/
theorem Outline.yields_of_strict {depth : Nat} {o : Outline} {value : Json}
    (made : o.strict depth = .ok value) : o.Yields value := by
  cases o with
  | null =>
    cases made
    exact .null
  | bool b =>
    cases made
    exact .bool b
  | number numeral =>
    obtain ⟨n, counts, same⟩ := bind_eq_ok.mp made
    cases same
    exact .number counts
  | text quoted =>
    obtain ⟨s, read, same⟩ := bind_eq_ok.mp made
    cases same
    exact .text read
  | list start items close =>
    obtain ⟨below, values, -, each, ended, rfl⟩ := strict_list.mp made
    exact .list each ended
  | object start members bare close =>
    obtain ⟨below, values, -, each, ended, rfl⟩ := strict_object.mp made
    exact .object each ended
  | broken opening cause skimmed offset => cases made

/-! ## Parts -/

/-- Whether a reading gives a value back from what it was written as. -/
structure Conveys {α : Type} (reading : Reading α) (written : Json) (value : α) : Prop where
  /-- What was written is spelled by its texts. -/
  spelled : IsSpelled written
  /-- Every outline of what was written is read as the value. -/
  read : ∀ depth o, Outline.strict depth o = .ok written → reading o = .ok value

section Parts

variable {α β : Type} {reading : Reading α} {written : Json} {value : α}

/-- A text is read back. -/
theorem conveys_text (s : String) : Conveys Reading.text (.text s) s := by
  refine ⟨isSpelled_text s, fun depth o made => ?_⟩
  cases Outline.yields_of_strict made with
  | text read => exact read

/-- A truth value is read back. -/
theorem conveys_bool (b : Bool) : Conveys Reading.bool (.bool b) b := by
  refine ⟨isSpelled_bool b, fun depth o made => ?_⟩
  cases Outline.yields_of_strict made with
  | bool b => rfl

/-- A natural number below the bound of a word is read back. -/
theorem conveys_natural {n : Nat} (fits : n < wordBound) :
    Conveys Reading.natural (.nat n) n := by
  refine ⟨isSpelled_nat fits, fun depth o made => ?_⟩
  cases Outline.yields_of_strict made with
  | number counts =>
    rw [Reading.natural, counts]
    rfl

/-- A value made of a value that is read back is read back. -/
theorem Conveys.bind {further : α → Except Fault β} {result : β}
    (inner : Conveys reading written value) (makes : further value = .ok result) :
    Conveys (fun node => reading node >>= further) written result :=
  ⟨inner.spelled, fun depth o made => bind_eq_ok.mpr ⟨value, inner.read depth o made, makes⟩⟩

/-- A word is read back. -/
theorem conveys_word (n : UInt64) : Conveys Reading.word (.word n) n :=
  (conveys_natural n.toNat_lt).bind (congrArg Except.ok UInt64.ofNat_toNat)

/-- Nothing is read back from null. -/
theorem conveys_nothing (reading : Reading α) : Conveys reading.optional .null none := by
  refine ⟨isSpelled_null, fun depth o made => ?_⟩
  cases Outline.yields_of_strict made with
  | null => rfl

/-- A value that may be nothing is read back if it is not written as null. -/
theorem Conveys.optional (inner : Conveys reading written value) (present : written ≠ .null) :
    Conveys reading.optional written (some value) := by
  refine ⟨inner.spelled, fun depth o made => ?_⟩
  have read := inner.read depth o made
  cases o with
  | null =>
    have null : Json.null = written := Except.ok.inj made
    exact absurd null.symm present
  | _ => exact bind_eq_ok.mpr ⟨value, read, rfl⟩

/-- A text or nothing is read back. -/
theorem conveys_textOrNull (s : Option String) :
    Conveys Reading.text.optional (textOrNull s) s := by
  cases s with
  | none => exact conveys_nothing _
  | some s => exact (conveys_text s).optional nofun

/-- A word or nothing is read back. -/
theorem conveys_wordOrNull (n : Option UInt64) :
    Conveys Reading.word.optional (wordOrNull n) n := by
  cases n with
  | none => exact conveys_nothing _
  | some n => exact (conveys_word n).optional nofun

/-- A kind is read back from its name. -/
theorem conveys_kind {listed : List (String × α)} {name : String}
    (found : listed.lookup name = some value) :
    Conveys (Reading.kind listed) (.text name) value := by
  refine ⟨isSpelled_text name, fun depth o made => ?_⟩
  cases Outline.yields_of_strict made with
  | text read =>
    refine bind_eq_ok.mpr ⟨name, read, ?_⟩
    rw [Reading.kind.choose, found]

/-- Items are read back one after another. -/
theorem each_of_conveys {write : α → Json} {values : List α}
    (each : ∀ value ∈ values, Conveys reading (write value) value) {depth : Nat}
    {items : List Outline} (made : Outline.strictItems depth items = .ok (values.map write)) :
    reading.each items = .ok values := by
  induction values generalizing items with
  | nil =>
    cases items with
    | nil => rfl
    | cons item items =>
      obtain ⟨_, _, _, _, same⟩ := Outline.strictItems_cons.mp made
      cases same
  | cons value values ih =>
    obtain ⟨first, later⟩ := List.forall_mem_cons.mp each
    cases items with
    | nil => cases made
    | cons item items =>
      obtain ⟨_, _, firstMade, laterMade, same⟩ := Outline.strictItems_cons.mp made
      obtain ⟨rfl, rfl⟩ := List.cons.inj same
      exact bind_eq_ok.mpr ⟨value, first.read depth item firstMade,
        bind_eq_ok.mpr ⟨values, ih later laterMade, rfl⟩⟩

/-- A list is read back if its items are. -/
theorem conveys_list {write : α → Json} {values : List α}
    (each : ∀ value ∈ values, Conveys reading (write value) value) :
    Conveys reading.list (.list (values.map write)) values := by
  constructor
  · refine isSpelled_list fun item among => ?_
    obtain ⟨value, member, rfl⟩ := List.mem_map.mp among
    exact (each value member).spelled
  · intro depth o made
    cases Outline.yields_of_strict made with
    | list itemsMade ended =>
      refine bind_eq_ok.mpr ⟨values, each_of_conveys each itemsMade, ?_⟩
      rw [ended]
      rfl

end Parts

/-! ## Records -/

/-- Members that are those of fields in order, each read back by its field. -/
inductive ConveysFields : (fields : List (FieldReader Outline)) → List (String × Json) →
    Values fields → Prop where
  /-- No members are those of no fields. -/
  | nil : ConveysFields [] [] ()
  /-- The first member has the name of the first field. -/
  | cons {field : FieldReader Outline} {fields : List (FieldReader Outline)} {written : Json}
      {members : List (String × Json)} {value : field.Value} {values : Values fields}
      (first : Conveys field.reading written value)
      (later : ConveysFields fields members values) :
      ConveysFields (field :: fields) ((field.name, written) :: members) (value, values)

/-- The slots of fields that all have been read. -/
def Slots.full : (fields : List (FieldReader Outline)) → Values fields → Slots fields
  | [], _ => ()
  | _ :: fields, (value, values) => (some value, full fields values)

/-- Slots that all have been read are complete. -/
theorem Slots.complete_full (fields : List (FieldReader Outline)) (values : Values fields) :
    complete fields (full fields values) = .ok values := by
  induction fields with
  | nil => rfl
  | cons field fields ih =>
    obtain ⟨value, values⟩ := values
    exact bind_eq_ok.mpr ⟨values, ih values, rfl⟩

/-- The members of an object as a record reads them. -/
def namedNodes (members : List (Quoted × Outline)) : List (Except Fault String × Outline) :=
  members.map fun (name, node) => (name.read, node)

variable {depth : Nat} {field : FieldReader Outline} {fields : List (FieldReader Outline)}

/-- A member of another name passes over a slot. -/
theorem Slots.fill_other {pass : Outline → Except Fault Unit} {name : String} {node : Outline}
    (other : name ≠ field.name) (slot : Option field.Value) (slots : Slots fields) :
    fill pass name node (field :: fields) (slot, slots) =
      fill pass name node fields slots >>= fun slots => .ok (slot, slots) := by
  cases slot with
  | none => exact if_neg other
  | some value => exact if_neg other

/-- Members of other names pass over a slot. -/
theorem fillAll_other {pass : Outline → Except Fault Unit} {written : List (String × Json)}
    {members : List (Quoted × Outline)}
    (made : Outline.strictMembers depth members = .ok written)
    (other : ∀ member ∈ written, member.1 ≠ field.name) {slot : Option field.Value}
    {slots slots' : Slots fields}
    (filled : Slots.fillAll pass fields slots (namedNodes members) = .ok slots') :
    Slots.fillAll pass (field :: fields) (slot, slots) (namedNodes members) =
      .ok (slot, slots') := by
  induction members generalizing written slots with
  | nil =>
    cases filled
    rfl
  | cons member members ih =>
    obtain ⟨quoted, node⟩ := member
    obtain ⟨name, value, later, named, -, laterMade, rfl⟩ := Outline.strictMembers_cons.mp made
    obtain ⟨different, others⟩ := List.forall_mem_cons.mp other
    obtain ⟨given, read, rest⟩ := bind_eq_ok.mp filled
    cases read.symm.trans named
    obtain ⟨between, front, back⟩ := bind_eq_ok.mp rest
    refine bind_eq_ok.mpr ⟨name, named,
      bind_eq_ok.mpr ⟨(slot, between), ?_, ih laterMade others back⟩⟩
    exact (Slots.fill_other different slot slots).trans (bind_eq_ok.mpr ⟨between, front, rfl⟩)

section Fields

variable {written : List (String × Json)} {values : Values fields}

/-- The names of members that are those of fields. -/
theorem ConveysFields.names (conveys : ConveysFields fields written values) :
    written.map Prod.fst = fields.map FieldReader.name := by
  induction conveys with
  | nil => rfl
  | cons first later ih => rw [List.map_cons, List.map_cons, ih]

/-- The members of fields are spelled. -/
theorem ConveysFields.spelled (conveys : ConveysFields fields written values) :
    ∀ member ∈ written, IsSpelled member.2 := by
  induction conveys with
  | nil => exact List.forall_mem_nil _
  | cons first later ih => exact List.forall_mem_cons.mpr ⟨first.spelled, ih⟩

/-- The members of fields fill all slots. -/
theorem ConveysFields.fillAll (conveys : ConveysFields fields written values)
    (distinct : (fields.map FieldReader.name).Nodup) (pass : Outline → Except Fault Unit)
    {members : List (Quoted × Outline)}
    (made : Outline.strictMembers depth members = .ok written) :
    Slots.fillAll pass fields (Slots.empty fields) (namedNodes members) =
      .ok (Slots.full fields values) := by
  induction conveys generalizing members with
  | nil =>
    cases members with
    | nil => rfl
    | cons member members =>
      obtain ⟨_, _, _, _, _, _, same⟩ := Outline.strictMembers_cons.mp made
      cases same
  | @cons field fields _ written value values first later ih =>
    obtain ⟨apart, distinct⟩ := List.nodup_cons.mp distinct
    cases members with
    | nil => cases made
    | cons member members =>
      obtain ⟨quoted, node⟩ := member
      obtain ⟨_, _, _, named, firstMade, laterMade, same⟩ := Outline.strictMembers_cons.mp made
      cases same
      have others : ∀ member ∈ written, member.1 ≠ field.name := by
        intro member among same
        exact apart (same ▸ later.names ▸ List.mem_map_of_mem among)
      have front : Slots.fill pass field.name node (field :: fields)
          (none, Slots.empty fields) = .ok (some value, Slots.empty fields) :=
        (if_pos rfl).trans (bind_eq_ok.mpr ⟨value, first.read depth node firstMade, rfl⟩)
      exact bind_eq_ok.mpr ⟨field.name, named, bind_eq_ok.mpr
        ⟨_, front, fillAll_other laterMade others (ih distinct laterMade)⟩⟩

/-- What is made of a record of distinct fields is read back from their members. -/
theorem conveys_record {α : Type} {name : String} {make : Values fields → Except Fault α}
    {value : α} (distinct : (fields.map FieldReader.name).Nodup)
    (conveys : ConveysFields fields written values) (makes : make values = .ok value) :
    Conveys (fun node => Reading.record name fields node >>= make) (.object written) value := by
  refine Conveys.bind ⟨isSpelled_object conveys.spelled, fun depth o made => ?_⟩ makes
  cases Outline.yields_of_strict made with
  | object membersMade ended =>
    refine bind_eq_ok.mpr ⟨_, conveys.fillAll distinct Outline.skim membersMade, ?_⟩
    exact bind_eq_ok.mpr ⟨(), ended, Slots.complete_full fields values⟩

end Fields

/-! ## Texts -/

/-- Reads a value from a text. -/
def Reading.ofText {α : Type} (reading : Reading α) (text : String) : Except Fault α :=
  readWhole reading (Letter.ofText text.toList)

section Texts

variable {α : Type} {reading : Reading α} {written : Json} {value : α}

/-- What was written is read back from every text that spells it. -/
theorem Conveys.ofText_of_spells (conveys : Conveys reading written value) {text : List Char}
    (spells : Spells text written) : reading.ofText (String.ofList text) = .ok value := by
  obtain ⟨s, rfl, rfl⟩ := spells
  have nothing : EndsNumber [] := by simp [EndsNumber]
  obtain ⟨o, c, outlined, left, makes⟩ := s.outlined (2 * (Letter.ofText s.chars).length + 2) 0 []
    (by simp [Letter.ofText]) nothing
  have ended : c.skipSpace.rest = [] := by
    rw [skipSpace_rest, left]
    rfl
  have read := conveys.read _ o ((makes s.value.nesting s.value).mpr ⟨Nat.le_refl _, rfl⟩)
  rw [List.append_nil] at outlined
  change outlineValue _ ⟨0, Letter.ofText s.chars⟩ = _ at outlined
  rw [Reading.ofText, String.toList_ofList, readWhole, outline, outlined]
  refine bind_eq_ok.mpr ⟨value, read, ?_⟩
  simp [ended]

/-- What was written is read back from its text on one line. -/
theorem Conveys.ofText_toText (conveys : Conveys reading written value) :
    reading.ofText written.toText = .ok value :=
  conveys.ofText_of_spells conveys.spelled.onOneLine

/-- What was written is read back from its text over lines. -/
theorem Conveys.ofText_toPrettyText (conveys : Conveys reading written value) :
    reading.ofText written.toPrettyText = .ok value :=
  conveys.ofText_of_spells (conveys.spelled.overLines 0)

/-- What was written over lines is read back with a line end after it. -/
theorem Conveys.ofText_line (conveys : Conveys reading written value) :
    reading.ofText (written.toPrettyText ++ "\n") = .ok value := by
  have text : written.toPrettyText ++ "\n" = String.ofList (written.spread 0 ++ ['\n']) := by
    rw [String.ofList_append]
    rfl
  rw [text]
  exact conveys.ofText_of_spells (conveys.spelled.overLines 0).append_lineEnd

/-- A value that is read from a text is read from an outline. -/
theorem Reading.exists_of_ofText {text : String} (read : reading.ofText text = .ok value) :
    ∃ node, reading node = .ok value := by
  rw [Reading.ofText, readWhole] at read
  generalize outline (Letter.ofText text.toList) = result at read
  obtain ⟨node, after⟩ := result
  obtain ⟨found, given, whole⟩ := bind_eq_ok.mp read
  refine ⟨node, given.trans ?_⟩
  cases after with
  | none => exact whole
  | some c =>
    by_cases ended : c.skipSpace.rest.isEmpty
    · exact (if_pos ended).symm.trans whole
    · cases (if_neg ended).symm.trans whole

end Texts

/-! ## Where values come from -/

/-- What is refused gives no value. -/
theorem Outline.refuse_ne_ok {α : Type} (node : Outline) (want : Want) (value : α) :
    node.refuse want ≠ .ok value := by
  intro given
  obtain ⟨found, -, refused⟩ := bind_eq_ok.mp given
  cases refused

/-- Whether a value was read by a field or stands for it. -/
def FieldReader.Gives (field : FieldReader Outline) (value : field.Value) : Prop :=
  (∃ node, field.reading node = .ok value) ∨ field.unnamed = some value ∨
    field.beyond = some value

/-- A value of a field that has to be there was read. -/
theorem FieldReader.exists_of_gives {α : Type} {name : String} {reading : Reading α} {value : α}
    (gives : (required name reading).Gives value) : ∃ node, reading node = .ok value := by
  rcases gives with read | stands | stands
  · exact read
  · cases stands
  · cases stands

/-- Whether values each come from their field. -/
def AreGiven : (fields : List (FieldReader Outline)) → Values fields → Prop
  | [], _ => True
  | field :: fields, (value, values) => field.Gives value ∧ AreGiven fields values

/-- Whether what was read so far comes from the fields. -/
def Slots.AreGiven : (fields : List (FieldReader Outline)) → Slots fields → Prop
  | [], _ => True
  | field :: fields, (slot, slots) =>
    (∀ value, slot = some value → field.Gives value) ∧ AreGiven fields slots

namespace Slots

variable {pass : Outline → Except Fault Unit}

/-- Where nothing has been read nothing comes from elsewhere. -/
theorem areGiven_empty (fields : List (FieldReader Outline)) : AreGiven fields (empty fields) := by
  induction fields with
  | nil => trivial
  | cons field fields ih => exact ⟨nofun, ih⟩

/-- A member is read by the field of its name. -/
theorem AreGiven.fill {name : String} {node : Outline} {slots slots' : Slots fields}
    (given : AreGiven fields slots) (filled : fill pass name node fields slots = .ok slots') :
    AreGiven fields slots' := by
  induction fields with
  | nil => trivial
  | cons field fields ih =>
    obtain ⟨slot, slots⟩ := slots
    obtain ⟨first, later⟩ := given
    by_cases named : name = field.name
    · cases slot with
      | none =>
        obtain ⟨value, read, same⟩ := bind_eq_ok.mp ((if_pos named).symm.trans filled)
        cases same
        refine ⟨fun found same => .inl ⟨node, ?_⟩, later⟩
        exact Option.some.inj same ▸ read
      | some old => cases (if_pos named).symm.trans filled
    · have passed := (fill_other named slot slots).symm.trans filled
      obtain ⟨rest, filledLater, same⟩ := bind_eq_ok.mp passed
      cases same
      exact ⟨first, ih later filledLater⟩

/-- Members are read by the fields of their names. -/
theorem AreGiven.fillAll {members : List (Except Fault String × Outline)}
    {slots slots' : Slots fields} (given : AreGiven fields slots)
    (filled : fillAll pass fields slots members = .ok slots') : AreGiven fields slots' := by
  induction members generalizing slots with
  | nil => exact Except.ok.inj filled ▸ given
  | cons member members ih =>
    obtain ⟨name, -, rest⟩ := bind_eq_ok.mp filled
    obtain ⟨between, front, back⟩ := bind_eq_ok.mp rest
    exact ih (given.fill front) back

/-- What completes slots comes from the fields. -/
theorem AreGiven.complete {slots : Slots fields} {values : Values fields}
    (given : AreGiven fields slots) (whole : complete fields slots = .ok values) :
    Json.AreGiven fields values := by
  induction fields with
  | nil => trivial
  | cons field fields ih =>
    obtain ⟨slot, slots⟩ := slots
    obtain ⟨first, later⟩ := given
    rw [Slots.complete.eq_2] at whole
    split at whole
    · rename_i value found
      obtain ⟨rest, wholeLater, same⟩ := bind_eq_ok.mp whole
      cases same
      refine ⟨?_, ih later wholeLater⟩
      rcases Option.or_eq_some_iff.mp found with read | ⟨-, stands⟩
      · exact first value read
      · exact .inr (.inl stands)
    · cases whole

end Slots

/-- What is read from items in order comes from the fields. -/
theorem areGiven_of_readItems {record : String} {count index : Nat} {ending : Except Fault Unit}
    {items left : List Outline} {values : Values fields}
    (read : readItems record count ending index fields items = .ok (values, left)) :
    AreGiven fields values := by
  induction fields generalizing items index with
  | nil => trivial
  | cons field fields ih =>
    cases items with
    | nil =>
      obtain ⟨-, -, taken⟩ := bind_eq_ok.mp ((readItems.eq_2 ..).symm.trans read)
      split at taken
      · rename_i value stands
        obtain ⟨⟨later, rest⟩, readLater, same⟩ := bind_eq_ok.mp taken
        cases same
        exact ⟨.inr (.inr stands), ih readLater⟩
      · cases taken
    | cons item items =>
      obtain ⟨value, first, taken⟩ := bind_eq_ok.mp ((readItems.eq_3 ..).symm.trans read)
      obtain ⟨⟨later, rest⟩, readLater, same⟩ := bind_eq_ok.mp taken
      cases same
      exact ⟨.inl ⟨item, first⟩, ih readLater⟩

/-- The values of a record that was read come from its fields. -/
theorem areGiven_of_record {name : String} {node : Outline} {values : Values fields}
    (read : Reading.record name fields node = .ok values) : AreGiven fields values := by
  cases node with
  | object start members bare close =>
    obtain ⟨slots, filled, rest⟩ := bind_eq_ok.mp read
    obtain ⟨-, -, whole⟩ := bind_eq_ok.mp rest
    exact ((Slots.areGiven_empty fields).fillAll filled).complete whole
  | list start items close =>
    obtain ⟨⟨found, left⟩, taken, rest⟩ := bind_eq_ok.mp read
    replace rest : (if left.isEmpty then close.check >>= fun _ => Except.ok found
      else .error (.form .trailingText start)) = .ok values := rest
    split at rest
    · obtain ⟨-, -, same⟩ := bind_eq_ok.mp rest
      exact Except.ok.inj same ▸ areGiven_of_readItems taken
    · cases rest
  | _ => exact absurd read (Outline.refuse_ne_ok _ _ _)

/-- Each of some items that were read was read. -/
theorem exists_of_each {α : Type} {reading : Reading α} {items : List Outline} {values : List α}
    (read : reading.each items = .ok values) :
    ∀ value ∈ values, ∃ item, reading item = .ok value := by
  induction items generalizing values with
  | nil =>
    cases read
    exact List.forall_mem_nil _
  | cons item items ih =>
    obtain ⟨first, firstRead, rest⟩ := bind_eq_ok.mp read
    obtain ⟨later, laterRead, same⟩ := bind_eq_ok.mp rest
    cases same
    exact List.forall_mem_cons.mpr ⟨⟨item, firstRead⟩, ih laterRead⟩

/-- Each item of a list that was read was read. -/
theorem exists_of_list {α : Type} {reading : Reading α} {node : Outline} {values : List α}
    (read : reading.list node = .ok values) :
    ∀ value ∈ values, ∃ item, reading item = .ok value := by
  cases node with
  | list start items close =>
    obtain ⟨found, itemsRead, rest⟩ := bind_eq_ok.mp read
    obtain ⟨-, -, same⟩ := bind_eq_ok.mp rest
    cases same
    exact exists_of_each itemsRead
  | _ => exact absurd read (Outline.refuse_ne_ok _ _ _)

end Pipewright.Json
