import Pipewright.Proofs.Block.Added
import Pipewright.Proofs.Json.Writing

/-!
# Unknown blocks that are put in

The text of an object of an unknown type may be put among the blocks of a workspace, wherever blocks
stand in a list and at any depth: the text is still read, and neither the document nor the issues
of its pipeline change (`Pipeline.unknown_blocks_are_inert`). A text is told as what it spells
(`Spelling`), so what is put in may be anything that has a value. An object with a number beyond the
binary format or half a surrogate pair has none, and is refused
(`Pipeline.notes_without_value_are_refused`).
-/
namespace Pipewright

open Json

/-! ## Texts with one block more -/

namespace Json.Spelling

mutual

/-- Whether the text of a block is that of another with an extra value put among the blocks inside
it, or among those inside one of them. -/
inductive Gains (extra : Spelling) : Spelling → Spelling → Prop where
  /-- A block with gaps around it. -/
  | spaced {s s' : Spelling} (before after : Gap) (gains : Gains extra s s') :
    Gains extra (.spaced before s after) (.spaced before s' after)
  /-- An object, in its last member with the name of its blocks. -/
  | object {gap : Gap} {before after : List (SpelledName × Spelling)} {name : SpelledName}
    {s s' : Spelling} (children : name.name = "children")
    (last : ∀ member ∈ after, member.1.name ≠ "children") (gains : ListGains extra s s') :
    Gains extra (.object gap (before ++ (name, s) :: after))
      (.object gap (before ++ (name, s') :: after))
  /-- A list of a kind and its fields, in the place of its blocks. -/
  | ordered {gap : Gap} {type : Spelling} {before after : List Spelling} {s s' : Spelling}
    {kind : BlockKind} (kinds : BlockKind.ofValue true type.value = .ok kind)
    (place : kind.childrenPlace = some before.length) (gains : ListGains extra s s') :
    Gains extra (.list gap (type :: (before ++ s :: after)))
      (.list gap (type :: (before ++ s' :: after)))

/-- Whether the text of a list of blocks is that of another with an extra value put among the
blocks, or among those inside one of them. -/
inductive ListGains (extra : Spelling) : Spelling → Spelling → Prop where
  /-- A list with gaps around it. -/
  | spaced {s s' : Spelling} (before after : Gap) (gains : ListGains extra s s') :
    ListGains extra (.spaced before s after) (.spaced before s' after)
  /-- A list, in any place of it. -/
  | inserted (gap gap' : Gap) (before after : List Spelling) :
    ListGains extra (.list gap (before ++ after)) (.list gap' (before ++ extra :: after))
  /-- A list, in one of its blocks. -/
  | within (gap : Gap) (before after : List Spelling) {s s' : Spelling} (gains : Gains extra s s') :
    ListGains extra (.list gap (before ++ s :: after)) (.list gap (before ++ s' :: after))

end

/-- Whether the text of a workspace is that of another with an extra value put among its blocks or
among those inside one of them. -/
def WorkspaceGains (extra s s' : Spelling) : Prop := ListGains extra s s' ∨ Gains extra s s'

mutual

/-- The value of the text is that of the other with unknown blocks put in. -/
theorem Gains.adds {extra : Spelling} (unknown : IsUnknownBlock extra.value) :
    {s s' : Spelling} → Gains extra s s' → Adds s.value s'.value
  | _, _, .spaced _ _ gains => gains.adds unknown
  | _, _, .object children last gains => by
    obtain ⟨items, items', items_eq, items_eq', adds⟩ := gains.adds unknown
    simp only [value, membersValue_eq_map, List.map_append, List.map_cons, children, items_eq,
      items_eq']
    refine adds_object adds (fun member among => ?_) _
    obtain ⟨spelled, here, rfl⟩ := List.mem_map.mp among
    exact last spelled here
  | _, _, .ordered kinds place gains => by
    obtain ⟨items, items', items_eq, items_eq', adds⟩ := gains.adds unknown
    simp only [value, itemsValue_eq_map, List.map_append, List.map_cons, items_eq, items_eq']
    exact adds_ordered adds kinds (by simpa using place) _

/-- The items of the text are those of the other with unknown blocks put in. -/
theorem ListGains.adds {extra : Spelling} (unknown : IsUnknownBlock extra.value) :
    {s s' : Spelling} → ListGains extra s s' →
      ∃ items items', s.value = .list items ∧ s'.value = .list items' ∧ AddsItems Adds items items'
  | _, _, .spaced _ _ gains => gains.adds unknown
  | _, _, .inserted gap gap' before after => by
    refine ⟨_, _, rfl, rfl, ?_⟩
    simp only [itemsValue_eq_map, List.map_append, List.map_cons]
    exact addsItems_inserted unknown _ _
  | _, _, .within gap before after gains => by
    refine ⟨_, _, rfl, rfl, ?_⟩
    simp only [itemsValue_eq_map, List.map_append, List.map_cons]
    exact addsItems_within (gains.adds unknown) _ _

end

/-- What gains among its blocks is an object, or a list of a kind and fields. -/
theorem Gains.value {extra : Spelling} : {s s' : Spelling} → Gains extra s s' →
    (∃ members members', s.value = .object members ∧ s'.value = .object members') ∨
      ∃ type items kind, s.value = .list (type :: items) ∧ BlockKind.ofValue true type = .ok kind
  | _, _, .spaced _ _ gains => gains.value
  | _, _, .object _ _ _ => .inl ⟨_, _, rfl, rfl⟩
  | _, _, .ordered kinds _ _ => .inr ⟨_, _, _, rfl, kinds⟩

end Json.Spelling

namespace Pipeline

/-- The value of a text with an unknown block put in is read, as the same pipeline but for unknown
blocks. -/
theorem ofWorkspace_gains {s extra s' : Spelling} (unknown : IsUnknownBlock extra.value)
    (gains : Spelling.WorkspaceGains extra s s') {p : Option Pipeline}
    (read : ofWorkspace s.value.settled = .ok p) :
    ∃ p', ofWorkspace s'.value.settled = .ok p' ∧ p'.map trimmed = p.map trimmed := by
  rcases gains with gains | gains
  · obtain ⟨items, items', value, value', adds⟩ := gains.adds unknown
    rw [value] at read
    rw [value']
    exact ofWorkspace_list_adds adds read
  · have adds := gains.adds unknown
    obtain ⟨members, members', value, value'⟩ | ⟨type, items, kind, value, kinds⟩ := gains.value
    · rw [value] at read adds
      rw [value'] at adds ⊢
      exact ofWorkspace_object_adds adds read
    · rw [value, settled, settledItems, ofWorkspace, readEach, bind_eq_ok] at read
      obtain ⟨blocks, read, _⟩ := read
      obtain ⟨b, first, _⟩ := bind_eq_ok.mp read
      exact absurd first (ofValue_type_ne_ok kinds b)

/-- A text that is read is spelled, and is still read with an unknown block put in at any place for
blocks, unless that nests too deep: what it says and its issues are the same. -/
theorem unknown_blocks_are_inert {text : String} {p : Option Pipeline}
    (accepted : parse text = .ok p) :
    (∃ s : Spelling, s.toText = text) ∧
      ∀ s extra s' : Spelling, s.toText = text → IsUnknownBlock extra.value →
        Spelling.WorkspaceGains extra s s' → s'.value.nesting ≤ 127 →
          ∃ p', parse s'.toText = .ok p' ∧ document p' = document p ∧
            p'.map issues = p.map issues := by
  obtain ⟨value, parsed, read⟩ := bind_eq_ok.mp accepted
  obtain ⟨s₀, spelled, _, _⟩ := parse_eq_ok_iff_spelling.mp parsed
  refine ⟨⟨s₀, spelled⟩, ?_⟩
  rintro s extra s' rfl unknown gains shallow
  obtain ⟨_, rfl⟩ := (s.parse_eq_ok_iff value).mp parsed
  obtain ⟨p', read', trims⟩ := ofWorkspace_gains unknown gains read
  refine ⟨p', bind_eq_ok.mpr ⟨_, (s'.parse_eq_ok_iff _).mpr ⟨shallow, rfl⟩, read'⟩, ?_, ?_⟩
  · rw [← document_trimmed, trims, document_trimmed]
  · have seen (q : Option Pipeline) : (q.map trimmed).map issues = q.map issues := by
      simp [issues_trimmed, Function.comp_def]
    rw [← seen, trims, seen]

/-- A note beside a pipeline is put in, and changes nothing. -/
theorem note_beside_pipeline_is_inert :
    ∃ p p', parse "[\x7b\"type\":\"pipeline\"\x7d]" = .ok p ∧
      parse "[\x7b\"type\":\"pipeline\"\x7d,\x7b\"type\":\"note\"\x7d]" = .ok p' ∧
        document p' = document p ∧ p'.map issues = p.map issues := by
  obtain ⟨p, accepted⟩ : ∃ p, parse "[\x7b\"type\":\"pipeline\"\x7d]" = .ok p := by
    have isOk : (parse "[\x7b\"type\":\"pipeline\"\x7d]").isOk = true := by decide +kernel
    cases found : parse "[\x7b\"type\":\"pipeline\"\x7d]" with
    | ok p => exact ⟨p, rfl⟩
    | error fault => cases found ▸ isOk
  obtain ⟨s, written, value⟩ := exists_spelling_compact
    (.object [("type", .text "pipeline")]) (by simp [IsNumberless, HaveNoNumber])
  obtain ⟨extra, written', value'⟩ := exists_spelling_compact
    (.object [("type", .text "note")]) (by simp [IsNumberless, HaveNoNumber])
  have text : (Spelling.list .none [s]).toText = "[\x7b\"type\":\"pipeline\"\x7d]" := by
    show String.ofList ('[' :: (s.chars ++ [']'])) = _
    rw [written]
    rfl
  have text' : (Spelling.list .none [s, extra]).toText =
      "[\x7b\"type\":\"pipeline\"\x7d,\x7b\"type\":\"note\"\x7d]" := by
    show String.ofList ('[' :: (s.chars ++ ',' :: extra.chars ++ [']'])) = _
    rw [written, written']
    rfl
  have unknown : IsUnknownBlock extra.value := ⟨_, "note", value', rfl, by decide⟩
  have shallow : (Spelling.list .none [s, extra]).value.nesting ≤ 127 := by
    show max s.value.nesting (max extra.value.nesting 0) + 1 ≤ _
    rw [value, value']
    decide
  obtain ⟨p', read, documents, issues⟩ := (unknown_blocks_are_inert accepted).2 _ extra _ text
    unknown (.inl (.inserted .none .none [s] [])) shallow
  exact ⟨p, p', accepted, text' ▸ read, documents, issues⟩

/-- A note without a value is refused: one with a number beyond the binary format, and one with half
a character. -/
theorem notes_without_value_are_refused :
    (parse "[\x7b\"type\":\"pipeline\"\x7d]").isOk = true ∧
      (parse ("[\x7b\"type\":\"pipeline\"\x7d," ++
        "\x7b\"type\":\"note\",\"x\":1e999\x7d]")).isOk = false ∧
      (parse ("[\x7b\"type\":\"pipeline\"\x7d," ++
        "\x7b\"type\":\"note\",\"x\":\"\\ud83d\"\x7d]")).isOk = false := by
  decide +kernel

end Pipeline

end Pipewright
