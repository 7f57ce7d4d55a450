import Pipewright.Proofs.Remote.RoundTrip
import Pipewright.Proofs.Report.SessionId
import Pipewright.Proofs.Report.Timestamp
import Pipewright.Report.Basic

/-!
# Records are read back from their texts

A record that is written to a text, on one line or over lines, is read back from it as it was, and
what it is read as from any text is written to a text that is read and written again unchanged
(`RoundTrips`). This holds of every record that goes to the service or comes from it, and of
reports whose moments are moments of a calendar in years of four digits
(`records_round_trip`).
-/
namespace Pipewright

open Json

/-! ## Reports -/

/-- A level is read back from its name. -/
theorem Level.conveys (l : Level) : Conveys reading (.text l.name) l :=
  conveys_kind (by cases l <;> rfl)

/-- An outcome is read back from its name. -/
theorem Outcome.conveys (o : Outcome) : Conveys reading (.text o.name) o :=
  conveys_kind (by cases o <;> rfl)

/-- A moment in the years that moments may have is read back from its text. -/
theorem Timestamp.conveys {t : Timestamp} (isMoment : t.IsMoment) (valid : t.date.isValid = true) :
    Conveys reading (.text t.text) t := by
  refine (conveys_text t.text).bind ?_
  rw [parse_text isMoment valid]

/-- An identifier is read back from its text. -/
theorem SessionId.conveys (id : SessionId) : Conveys reading (.text id.text) id := by
  refine (conveys_text id.text).bind ?_
  rw [parse_text id]

/-- An entry at such a moment is read back. -/
theorem Entry.conveys {e : Entry} (isMoment : e.timestamp.IsMoment)
    (valid : e.timestamp.date.isValid = true) : Conveys reading e.toJson e :=
  conveys_record (by decide)
    (.cons (Timestamp.conveys isMoment valid)
      (.cons (Level.conveys _) (.cons (conveys_text _) .nil))) rfl

/-- An entry that is read was made at a moment. -/
theorem Entry.isMoment_of_reading {node : Outline} {e : Entry} (read : reading node = .ok e) :
    e.timestamp.IsMoment := by
  obtain ⟨⟨timestamp, others⟩, fields, made⟩ := bind_eq_ok.mp read
  cases made
  obtain ⟨quoted, momentRead⟩ := FieldReader.exists_of_gives (areGiven_of_record fields).1
  obtain ⟨text, -, parsed⟩ := bind_eq_ok.mp momentRead
  split at parsed
  · rename_i t found
    cases parsed
    exact Timestamp.isMoment_of_parse found
  · cases parsed

namespace Report

/-- Whether each entry was made at a moment. -/
def HasMoments (r : Report) : Prop := ∀ e ∈ r.entries, e.timestamp.IsMoment

/-- Whether each entry was made in a year that takes four digits. -/
def HasPlainYears (r : Report) : Prop := ∀ e ∈ r.entries, e.timestamp.HasPlainYear

/-- A report of moments in the years that moments may have is read back. -/
theorem conveys_of_isValid {r : Report} (moments : r.HasMoments)
    (valid : ∀ e ∈ r.entries, e.timestamp.date.isValid = true) : Conveys reading r.toJson r :=
  conveys_record (by decide)
    (.cons (SessionId.conveys _)
      (.cons (conveys_list fun e among => Entry.conveys (moments e among) (valid e among))
        (.cons (Outcome.conveys _)
          (.cons (conveys_wordOrNull _) (.cons (conveys_textOrNull _) .nil))))) rfl

/-- A report of moments of plain years is read back. -/
theorem conveys {r : Report} (moments : r.HasMoments) (plain : r.HasPlainYears) :
    Conveys reading r.toJson r :=
  conveys_of_isValid moments fun e among =>
    Timestamp.isValid_of_hasPlainYear (moments e among) (plain e among)

/-- A report that is read has entries made at moments. -/
theorem hasMoments_of_reading {node : Outline} {r : Report} (read : reading node = .ok r) :
    r.HasMoments := by
  obtain ⟨⟨sessionId, entries, others⟩, fields, made⟩ := bind_eq_ok.mp read
  cases made
  obtain ⟨list, entriesRead⟩ := FieldReader.exists_of_gives (areGiven_of_record fields).2.1
  intro e among
  obtain ⟨item, entryRead⟩ := exists_of_list entriesRead e among
  exact Entry.isMoment_of_reading entryRead

end Report

/-! ## All records -/

/-- Whether the possible values of a type are read back from their texts as long as they are in range,
and what is read from any text and is in range is written to a text that is read and written again
unchanged. -/
structure RoundTrips {α : Type} (write : α → Json) (reading : Reading α)
    (possible inRange : α → Prop) : Prop where
  /-- A value is read back from its text on one line. -/
  reads_line : ∀ value, possible value → inRange value →
    reading.ofText (write value).toText = .ok value
  /-- A value is read back from its text over lines. -/
  reads_lines : ∀ value, possible value → inRange value →
    reading.ofText (write value).toPrettyText = .ok value
  /-- What is read from any text is written to a text that is written again unchanged. -/
  rewrites : ∀ text value, reading.ofText text = .ok value → inRange value →
    ∃ again, reading.ofText (write value).toText = .ok again ∧
      (write again).toText = (write value).toText

/-- Values whose written form is read back round-trip if what is read is possible. -/
theorem roundTrips_of_conveys {α : Type} {write : α → Json} {reading : Reading α}
    {possible inRange : α → Prop}
    (conveys : ∀ value, possible value → inRange value → Conveys reading (write value) value)
    (possible_of_reading : ∀ node value, reading node = .ok value → possible value) :
    RoundTrips write reading possible inRange where
  reads_line value isPossible isInRange := (conveys value isPossible isInRange).ofText_toText
  reads_lines value isPossible isInRange :=
    (conveys value isPossible isInRange).ofText_toPrettyText
  rewrites text value read isInRange := by
    obtain ⟨node, given⟩ := Reading.exists_of_ofText read
    have again := conveys value (possible_of_reading node value given) isInRange
    exact ⟨value, again.ofText_toText, rfl⟩

/-- Whether all values of a type round-trip. -/
abbrev RoundTripsWholly {α : Type} (write : α → Json) (reading : Reading α) : Prop :=
  RoundTrips write reading (fun _ => True) (fun _ => True)

/-- All values round-trip if the written form of each is read back. -/
theorem roundTripsWholly_of_conveys {α : Type} {write : α → Json} {reading : Reading α}
    (conveys : ∀ value, Conveys reading (write value) value) : RoundTripsWholly write reading :=
  roundTrips_of_conveys (fun value _ _ => conveys value) fun _ _ _ => trivial

/-- Every record of the service round-trips, and so does every report whose moments are in years of
four digits. -/
theorem records_round_trip :
    RoundTripsWholly Repository.toJson Repository.reading ∧
    RoundTripsWholly Branch.toJson Branch.reading ∧
    RoundTripsWholly GitObject.toJson GitObject.reading ∧
    RoundTripsWholly CreateBlob.toJson CreateBlob.reading ∧
    RoundTripsWholly TreeEntry.toJson TreeEntry.reading ∧
    RoundTripsWholly CreateTree.toJson CreateTree.reading ∧
    RoundTripsWholly CreateCommit.toJson CreateCommit.reading ∧
    RoundTripsWholly UpdateRef.toJson UpdateRef.reading ∧
    RoundTripsWholly WorkflowList.toJson WorkflowList.reading ∧
    RoundTripsWholly DispatchWorkflow.toJson DispatchWorkflow.reading ∧
    RoundTripsWholly WorkflowRunList.toJson WorkflowRunList.reading ∧
    RoundTripsWholly RunJobList.toJson RunJobList.reading ∧
    RoundTrips Report.toJson Report.reading Report.HasMoments Report.HasPlainYears := by
  refine ⟨?_, ?_, ?_, ?_, ?_, ?_, ?_, ?_, ?_, ?_, ?_, ?_, ?_⟩
  · exact roundTripsWholly_of_conveys Repository.conveys
  · exact roundTripsWholly_of_conveys Branch.conveys
  · exact roundTripsWholly_of_conveys GitObject.conveys
  · exact roundTripsWholly_of_conveys CreateBlob.conveys
  · exact roundTripsWholly_of_conveys TreeEntry.conveys
  · exact roundTripsWholly_of_conveys CreateTree.conveys
  · exact roundTripsWholly_of_conveys CreateCommit.conveys
  · exact roundTripsWholly_of_conveys UpdateRef.conveys
  · exact roundTripsWholly_of_conveys WorkflowList.conveys
  · exact roundTripsWholly_of_conveys DispatchWorkflow.conveys
  · exact roundTripsWholly_of_conveys WorkflowRunList.conveys
  · exact roundTripsWholly_of_conveys RunJobList.conveys
  · exact roundTrips_of_conveys (fun _ moments plain => Report.conveys moments plain)
      fun _ _ read => Report.hasMoments_of_reading read

end Pipewright
