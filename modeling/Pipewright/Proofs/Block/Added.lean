import Pipewright.Proofs.Block.Reading
import Pipewright.Proofs.Block.Trimmed

/-!
# Values with unknown blocks put in

A value may have more blocks than another, all of them unknown: objects whose type is no type of a
block (`Adds`). Such a value is read wherever the other is, and the blocks that are read are the
same but for unknown ones (`Block.ofValueWithin_adds`, `Pipeline.ofWorkspace_list_adds`). The fuel
of the two readings differs, for what is put in may be taller than all the rest.
-/
namespace Pipewright

open Json

/-! ## Values with more blocks -/

/-- Whether a value is an object whose type is no type of a block. -/
def IsUnknownBlock (value : Json) : Prop :=
  ∃ members name, value = .object members ∧ lastNamed "type" members = some (.text name) ∧
    name ∉ ["pipeline", "job", "step", "trigger", "env"]

/-- The place of the blocks of a block among its fields. -/
def BlockKind.childrenPlace : BlockKind → Option Nat
  | pipeline => some 2
  | job => some 5
  | _ => none

namespace BlockBody

variable {kind : BlockKind} {body body' : BlockBody}

/-- Whether a body gives what another gives for every field but the blocks inside. -/
structure GivesAlike (kind : BlockKind) (body body' : BlockBody) : Prop where
  /-- They give as many fields by their places. -/
  count : body'.count = body.count
  /-- They give the same for a field in another place and of another name. -/
  others : ∀ place name, kind.childrenPlace ≠ some place → name ≠ "children" →
    body'.last place name = body.last place name

/-- A body gives what it gives. -/
theorem GivesAlike.refl : GivesAlike kind body body := ⟨rfl, fun _ _ _ _ => rfl⟩

/-- Bodies that give alike do so when they are settled. -/
theorem GivesAlike.given (alike : GivesAlike kind body body') (place : Nat) {name : String}
    (elsewhere : kind.childrenPlace ≠ some place) (other : name ∉ ["type", "children"]) :
    body'.settled.given place name = body.settled.given place name := by
  obtain ⟨type, other⟩ : name ≠ "type" ∧ name ≠ "children" := by simpa using other
  rw [given_settled type, given_settled type, alike.others _ _ elsewhere other]

/-- Bodies that give alike are as short. -/
theorem GivesAlike.short (alike : GivesAlike kind body body') {count : Nat}
    (short : body.settled.count ≤ count) : body'.settled.count ≤ count := by
  rw [count_settled] at short ⊢
  exact alike.count ▸ short

end BlockBody

/-- Whether items are others with unknown blocks put among them, the others changed so. -/
inductive AddsItems (changes : Json → Json → Prop) : List Json → List Json → Prop where
  /-- No items. -/
  | nil : AddsItems changes [] []
  /-- An item that is kept or changed. -/
  | kept {item item' : Json} {items items' : List Json} (change : changes item item')
    (rest : AddsItems changes items items') : AddsItems changes (item :: items) (item' :: items')
  /-- An unknown block that is put in. -/
  | added {extra : Json} {items items' : List Json} (unknown : IsUnknownBlock extra)
    (rest : AddsItems changes items items') : AddsItems changes items (extra :: items')

/-- Whether a value is another with unknown blocks put among its blocks and the blocks in them. -/
inductive Adds : Json → Json → Prop where
  /-- The same value. -/
  | same (value : Json) : Adds value value
  /-- A value with the same type and the same fields but for its blocks. -/
  | inside {value value' type : Json} {body body' : BlockBody} {items items' : List Json}
    (apart : value.takenApart = some (type, body))
    (apart' : value'.takenApart = some (type, body'))
    (alike : ∀ kind, BlockKind.ofValue true type = .ok kind → body.GivesAlike kind body')
    (children : ∀ kind, BlockKind.ofValue true type = .ok kind → ∀ place,
      kind.childrenPlace = some place → body.last place "children" = some (.list items) ∧
        body'.last place "children" = some (.list items'))
    (adds : AddsItems Adds items items') : Adds value value'
  /-- Anything in place of a value that is no block. -/
  | astray {value value' : Json} (none : value.takenApart = none) : Adds value value'

/-- Items with nothing put among them. -/
theorem AddsItems.same (items : List Json) : AddsItems Adds items items := by
  induction items with
  | nil => exact .nil
  | cons item items ih => exact .kept (.same item) ih

/-- Items with one unknown block put in between. -/
theorem addsItems_inserted {extra : Json} (unknown : IsUnknownBlock extra)
    (before after : List Json) : AddsItems Adds (before ++ after) (before ++ extra :: after) := by
  induction before with
  | nil => exact .added unknown (.same after)
  | cons item before ih => exact .kept (.same item) ih

/-- Items one of which is changed. -/
theorem addsItems_within {value value' : Json} (adds : Adds value value')
    (before after : List Json) :
    AddsItems Adds (before ++ value :: after) (before ++ value' :: after) := by
  induction before with
  | nil => exact .kept adds (.same after)
  | cons item before ih => exact .kept (.same item) ih

/-- Members of another name are not looked at. -/
theorem lastNamed_append_cons {name other : String} (different : other ≠ name) (value : Json)
    (before after : List (String × Json)) :
    lastNamed name (before ++ (other, value) :: after) = lastNamed name (before ++ after) := by
  simp [lastNamed_append, lastNamed, different]

/-- A member with no later one of its name is the last. -/
theorem lastNamed_append_cons_self {name : String} {after : List (String × Json)}
    (last : ∀ member ∈ after, member.1 ≠ name) (value : Json) (before : List (String × Json)) :
    lastNamed name (before ++ (name, value) :: after) = some value := by
  simp [lastNamed_append, lastNamed, lastNamed_eq_none last]

/-- An object with unknown blocks put among its blocks. -/
theorem adds_object {items items' : List Json} (adds : AddsItems Adds items items')
    {after : List (String × Json)} (last : ∀ member ∈ after, member.1 ≠ "children")
    (before : List (String × Json)) :
    Adds (.object (before ++ ("children", .list items) :: after))
      (.object (before ++ ("children", .list items') :: after)) := by
  have others {name : String} (other : name ≠ "children") (value : Json) :=
    lastNamed_append_cons (Ne.symm other) value before after
  cases types : lastNamed "type" (before ++ after) with
  | none =>
    refine .astray ?_
    rw [takenApart, others (by decide), types]
    rfl
  | some type =>
    have apart (value : Json) : (Json.object (before ++ ("children", value) :: after)).takenApart =
        some (type, .named (before ++ ("children", value) :: after)) := by
      rw [takenApart, others (by decide), types]
      rfl
    refine .inside (apart _) (apart _) (fun _ _ => ⟨rfl, ?_⟩) (fun _ _ _ _ => ⟨?_, ?_⟩) adds
    · exact fun _ name _ other => (others other _).trans (others other _).symm
    · exact lastNamed_append_cons_self last _ before
    · exact lastNamed_append_cons_self last _ before

/-- A list of a kind and fields with unknown blocks put among its blocks. -/
theorem adds_ordered {items items' : List Json} (adds : AddsItems Adds items items') {type : Json}
    {kind : BlockKind} (kinds : BlockKind.ofValue true type = .ok kind) {before : List Json}
    (place : kind.childrenPlace = some before.length) (after : List Json) :
    Adds (.list (type :: (before ++ .list items :: after)))
      (.list (type :: (before ++ .list items' :: after))) := by
  refine .inside rfl rfl (fun found here => ⟨?_, ?_⟩) (fun found here there same => ?_) adds
  · simp [BlockBody.count]
  · intro there name elsewhere _
    cases kinds.symm.trans here
    have different : there ≠ before.length := fun same => elsewhere (same ▸ place)
    rcases Nat.lt_or_gt_of_ne different with less | greater
    · simp only [BlockBody.last, List.getElem?_append_left less]
    · obtain ⟨beyond, rfl⟩ := Nat.exists_eq_add_of_lt greater
      simp [BlockBody.last, Nat.add_assoc, List.getElem?_append_right]
  · cases kinds.symm.trans here
    cases place.symm.trans same
    simp [BlockBody.last]

/-! ## Reading them -/

namespace Block

variable {block block' : Json → Except Fault Block} {kind : BlockKind} {body body' : BlockBody}
  {b : Block}

/-- Whether blocks are those that are read from what is given for them, if anything is. -/
def ReadsChildren (block : Json → Except Fault Block) (given : Option Json) (blocks : List Block) :
    Prop :=
  (FieldReader.withDefault "children" (asList block) []).Reads (given.map settled) blocks

/-- The blocks of a body are read from what it gives for them once it is settled. -/
theorem readsChildren_iff {place : Nat} {blocks : List Block} :
    ReadsChildren block (body.last place "children") blocks ↔
      (FieldReader.withDefault "children" (asList block) []).Reads
        (body.settled.given place "children") blocks := by
  rw [BlockBody.given_settled (by decide)]
  rfl

/-- Whether the blocks that are given are read wherever others are, and are those but for unknown
ones. -/
def KeepsChildren (block block' : Json → Except Fault Block) (given given' : Option Json) : Prop :=
  ∀ blocks, ReadsChildren block given blocks →
    ∃ blocks', ReadsChildren block' given' blocks' ∧ kept blocks' = kept blocks

/-- A pipeline is the same but for unknown blocks when its blocks are. -/
theorem ofBody_pipeline_trimmed (alike : BlockBody.GivesAlike .pipeline body body')
    (children : KeepsChildren block block' (body.last 2 "children") (body'.last 2 "children"))
    (read : ofBody block .pipeline body.settled = .ok b) :
    ∃ b', ofBody block' .pipeline body'.settled = .ok b' ∧ b'.trimmed = b.trimmed := by
  obtain ⟨short, ⟨name, concurrent, blocks, ⟨⟩⟩, ⟨names, concurrents, inside, -⟩, rfl⟩ :=
    (ofBody_pipeline_eq_ok_iff body.isSettled_settled).mp read
  obtain ⟨blocks', inside', kept⟩ := children blocks (readsChildren_iff.mpr inside)
  refine ⟨pipeline name concurrent blocks', (ofBody_pipeline_eq_ok_iff body'.isSettled_settled).mpr
    ⟨alike.short short, (name, concurrent, blocks', ()), ⟨?_, ?_, ?_, trivial⟩, rfl⟩, ?_⟩
  · exact names.congr (alike.given 0 (by decide) (by decide))
  · exact concurrents.congr (alike.given 1 (by decide) (by decide))
  · exact readsChildren_iff.mp inside'
  · exact congrArg (pipeline name concurrent) kept

/-- A job is the same but for unknown blocks when its blocks are. -/
theorem ofBody_job_trimmed (alike : BlockBody.GivesAlike .job body body')
    (children : KeepsChildren block block' (body.last 5 "children") (body'.last 5 "children"))
    (read : ofBody block .job body.settled = .ok b) :
    ∃ b', ofBody block' .job body'.settled = .ok b' ∧ b'.trimmed = b.trimmed := by
  obtain ⟨short, ⟨name, description, continueOnError, needs, condition, blocks, ⟨⟩⟩,
    ⟨names, descriptions, continues, needss, conditions, inside, -⟩, rfl⟩ :=
    (ofBody_job_eq_ok_iff body.isSettled_settled).mp read
  obtain ⟨blocks', inside', kept⟩ := children blocks (readsChildren_iff.mpr inside)
  refine ⟨job name description continueOnError needs condition blocks',
    (ofBody_job_eq_ok_iff body'.isSettled_settled).mpr ⟨alike.short short,
      (name, description, continueOnError, needs, condition, blocks', ()),
      ⟨?_, ?_, ?_, ?_, ?_, ?_, trivial⟩, rfl⟩, ?_⟩
  · exact names.congr (alike.given 0 (by decide) (by decide))
  · exact descriptions.congr (alike.given 1 (by decide) (by decide))
  · exact continues.congr (alike.given 2 (by decide) (by decide))
  · exact needss.congr (alike.given 3 (by decide) (by decide))
  · exact conditions.congr (alike.given 4 (by decide) (by decide))
  · exact readsChildren_iff.mp inside'
  · exact congrArg (job name description continueOnError needs condition) kept

/-- Bodies that give alike make the same block, but for unknown ones, when the blocks inside are the
same but for unknown ones. -/
theorem ofBody_trimmed (alike : BlockBody.GivesAlike kind body body')
    (children : ∀ place, kind.childrenPlace = some place →
      KeepsChildren block block' (body.last place "children") (body'.last place "children"))
    (read : ofBody block kind body.settled = .ok b) :
    ∃ b', ofBody block' kind body'.settled = .ok b' ∧ b'.trimmed = b.trimmed := by
  -- a block with no blocks inside is read from the same fields
  have fields (none : kind.childrenPlace = none) {names : List String}
      (apart : ∀ name ∈ names, name ∉ ["type", "children"]) (place : Nat) (name : String)
      (among : name ∈ names) :
      body'.settled.given place name = body.settled.given place name :=
    alike.given place (none ▸ nofun) (apart name among)
  cases kind with
  | pipeline => exact ofBody_pipeline_trimmed alike (children 2 rfl) read
  | job => exact ofBody_job_trimmed alike (children 5 rfl) read
  | step =>
    obtain ⟨short, values, reads, rfl⟩ :=
      (ofBody_step_eq_ok_iff body.isSettled_settled).mp read
    exact ⟨_, (ofBody_step_eq_ok_iff body'.isSettled_settled).mpr
      ⟨alike.short short, values, reads.congr (fields rfl (by decide)), rfl⟩, rfl⟩
  | trigger =>
    obtain ⟨short, values, reads, rfl⟩ :=
      (ofBody_trigger_eq_ok_iff body.isSettled_settled).mp read
    exact ⟨_, (ofBody_trigger_eq_ok_iff body'.isSettled_settled).mpr
      ⟨alike.short short, values, reads.congr (fields rfl (by decide)), rfl⟩, rfl⟩
  | env =>
    obtain ⟨short, values, reads, rfl⟩ :=
      (ofBody_env_eq_ok_iff body.isSettled_settled).mp read
    exact ⟨_, (ofBody_env_eq_ok_iff body'.isSettled_settled).mpr
      ⟨alike.short short, values, reads.congr (fields rfl (by decide)), rfl⟩, rfl⟩
  | unknown =>
    obtain ⟨none, rfl⟩ := ofBody_unknown_eq_ok_iff.mp read
    have none' := alike.short (Nat.le_of_eq none)
    exact ⟨unknown, ofBody_unknown_eq_ok_iff.mpr ⟨Nat.le_zero.mp none', rfl⟩, rfl⟩

/-- Whether values that others are with unknown blocks put in are read wherever those are, as the
same but for unknown blocks, if they are lower than a height. -/
def KeepsAdded (block block' : Json → Except Fault Block) (height : Nat) : Prop :=
  ∀ {value value' : Json}, Adds value value' → value'.settled.height < height →
    ∀ {b : Block}, block value.settled = .ok b →
      ∃ b', block' value'.settled = .ok b' ∧ b'.trimmed = b.trimmed

/-- An unknown block is read as such. -/
theorem ofValueWithin_isUnknownBlock {value : Json} (unknown : IsUnknownBlock value) (fuel : Nat)
    (numbered : Bool) : ofValueWithin (fuel + 1) numbered value.settled = .ok .unknown := by
  obtain ⟨members, name, rfl, type, unlisted⟩ := unknown
  have kind : BlockKind.ofName name = .unknown := by
    have absent : BlockKind.listed.lookup name = none :=
      List.lookup_eq_none_iff.mpr fun entry among => by
        have listed : entry.1 ∈ ["pipeline", "job", "step", "trigger", "env"] :=
          List.mem_map_of_mem (f := Prod.fst) among
        simpa using fun same : name = entry.1 => unlisted (same ▸ listed)
    rw [BlockKind.ofName, absent]
    rfl
  refine ofValueWithin_settled_eq_ok_iff.mpr
    ⟨.text name, .named members, .unknown, ?_, congrArg Except.ok kind, ?_⟩
  · rw [takenApart, type]
    rfl
  · exact ofBody_unknown_eq_ok_iff.mpr ⟨BlockBody.count_settled _, rfl⟩

/-- Items with unknown blocks put among them are read, and the blocks that are kept are the same. -/
theorem readEach_adds {height : Nat} (each : KeepsAdded block block' height)
    (reads : ∀ {value : Json}, IsUnknownBlock value → value.settled.height < height →
      block' value.settled = .ok .unknown)
    {items items' : List Json} (adds : AddsItems Adds items items')
    (low : itemsHeight (settledItems items') < height) {blocks : List Block}
    (read : readEach block (settledItems items) = .ok blocks) :
    ∃ blocks', readEach block' (settledItems items') = .ok blocks' ∧
      kept blocks' = kept blocks := by
  induction adds generalizing blocks with
  | nil => exact ⟨blocks, read, rfl⟩
  | kept change rest ih =>
    rw [settledItems, itemsHeight, Nat.max_lt] at low
    rw [settledItems, readEach, bind_eq_ok] at read
    obtain ⟨b, first, later⟩ := read
    obtain ⟨others, read, same⟩ := bind_eq_ok.mp later
    obtain rfl := Except.ok.inj same
    obtain ⟨b', first', trims⟩ := each change low.1 first
    obtain ⟨blocks', read', keeps⟩ := ih low.2 read
    refine ⟨b' :: blocks', ?_, kept_cons_congr trims keeps⟩
    rw [settledItems, readEach, first', read']
    rfl
  | added unknown rest ih =>
    rw [settledItems, itemsHeight, Nat.max_lt] at low
    obtain ⟨blocks', read', keeps⟩ := ih low.2 read
    refine ⟨.unknown :: blocks', ?_, (kept_unknown blocks').trans keeps⟩
    rw [settledItems, readEach, reads unknown low.1, read']
    rfl

/-- The blocks of a block are read with unknown ones put among them. -/
theorem keepsChildren_adds {fuel fuel' : Nat}
    (each : KeepsAdded (ofValueWithin fuel true) (ofValueWithin fuel' true) fuel')
    {items items' : List Json} (adds : AddsItems Adds items items')
    (low : itemsHeight (settledItems items') < fuel') :
    KeepsChildren (ofValueWithin fuel true) (ofValueWithin fuel' true)
      (some (.list items)) (some (.list items')) := by
  refine fun blocks read => readEach_adds each (fun unknown low => ?_) adds low read
  cases fuel' with
  | zero => cases low
  | succ fuel' => exact ofValueWithin_isUnknownBlock unknown fuel' true

/-- The blocks of a block are read again with other fuel for their height. -/
theorem keepsChildren_same {fuel fuel' : Nat}
    (each : KeepsAdded (ofValueWithin fuel true) (ofValueWithin fuel' true) fuel')
    {given : Option Json} (low : ∀ value, given = some value → value.settled.height ≤ fuel') :
    KeepsChildren (ofValueWithin fuel true) (ofValueWithin fuel' true) given given := by
  match given with
  | none => exact fun blocks read => ⟨blocks, read, rfl⟩
  | some (.list items) => exact keepsChildren_adds each (.same items) (low _ rfl)
  | some .null | some (.bool _) | some (.number _) | some (.text _) | some (.object _) =>
    exact fun blocks read => nomatch read

/-- A kind that is given where numbers are not allowed is given where they are. -/
theorem ofValue_numbered {numbered : Bool} {value : Json}
    (given : BlockKind.ofValue numbered value = .ok kind) :
    BlockKind.ofValue true value = .ok kind := by
  cases numbered with
  | true => exact given
  | false =>
    match value with
    | .text _ => exact given
    | .number (.natural _) => cases given
    | .number (.negative _) | .number (.real _ _) | .null | .bool _ | .list _ | .object _ =>
      cases given

/-- A value with unknown blocks put in is read with fuel for its height, as the same block but for
unknown ones. -/
theorem ofValueWithin_adds (fuel : Nat) : ∀ {value value' : Json}, Adds value value' →
    ∀ {numbered : Bool} {b : Block} {fuel' : Nat}, value'.settled.height < fuel' →
      ofValueWithin fuel numbered value.settled = .ok b →
        ∃ b', ofValueWithin fuel' numbered value'.settled = .ok b' ∧ b'.trimmed = b.trimmed := by
  induction fuel with
  | zero =>
    intro value value' _ numbered b fuel' _ read
    cases read
  | succ fuel ih =>
    intro value value' adds numbered b fuel' low read
    obtain ⟨fuel', rfl⟩ := Nat.exists_eq_add_one_of_ne_zero (Nat.ne_zero_of_lt low)
    obtain ⟨type, body, kind, apart, kinds, made⟩ := ofValueWithin_settled_eq_ok_iff.mp read
    have each : KeepsAdded (ofValueWithin fuel true) (ofValueWithin fuel' true) fuel' :=
      fun adds low _ read => ih adds low read
    cases adds with
    | same =>
      obtain ⟨b', made', trims⟩ := ofBody_trimmed .refl (fun place _ => keepsChildren_same each
        fun found given => by have := BlockBody.height_last apart given; omega) made
      exact ⟨b', ofValueWithin_settled_eq_ok_iff.mpr ⟨type, body, kind, apart, kinds, made'⟩, trims⟩
    | inside before after alike children adds =>
      obtain ⟨rfl, rfl⟩ := Prod.mk.inj (Option.some.inj (before.symm.trans apart))
      have kind := ofValue_numbered kinds
      obtain ⟨b', made', trims⟩ := ofBody_trimmed (alike _ kind) (fun place here => by
        obtain ⟨given, given'⟩ := children _ kind place here
        have lower := BlockBody.height_last after given'
        rw [given, given']
        refine keepsChildren_adds each adds ?_
        rw [settled, height] at lower
        omega) made
      exact ⟨b', ofValueWithin_settled_eq_ok_iff.mpr ⟨_, _, _, after, kinds, made'⟩, trims⟩
    | astray none => cases none.symm.trans apart

end Block

/-! ## Workspaces -/

namespace Pipeline

/-- What gives a kind is no block. -/
theorem ofValue_type_ne_ok {type : Json} {kind : BlockKind}
    (kinds : BlockKind.ofValue true type = .ok kind) (b : Block) :
    Block.ofValue type.settled ≠ .ok b := by
  match type with
  | .text _ => exact nofun
  | .number _ => exact nofun
  | .null | .bool _ | .list _ | .object _ => cases kinds

/-- Blocks are read at the top of a workspace with unknown ones put in. -/
theorem keepsAdded_ofValue (height : Nat) :
    Block.KeepsAdded Block.ofValue Block.ofValue height :=
  fun adds _ _ read => Block.ofValueWithin_adds _ adds (Nat.lt_succ_self _) read

/-- A workspace that is a list of blocks is read with unknown ones put in. -/
theorem ofWorkspace_list_adds {items items' : List Json} (adds : AddsItems Adds items items')
    {p : Option Pipeline} (read : ofWorkspace (Json.list items).settled = .ok p) :
    ∃ p', ofWorkspace (Json.list items').settled = .ok p' ∧ p'.map trimmed = p.map trimmed := by
  rw [settled, ofWorkspace, bind_eq_ok] at read
  obtain ⟨blocks, read, same⟩ := read
  obtain rfl := Except.ok.inj same
  obtain ⟨blocks', read', keeps⟩ := Block.readEach_adds (keepsAdded_ofValue _)
    (fun unknown _ => Block.ofValueWithin_isUnknownBlock unknown _ false) adds
    (Nat.lt_succ_self _) read
  refine ⟨first blocks', ?_, ?_⟩
  · rw [settled, ofWorkspace, read']
    rfl
  · rw [← first_kept, ← first_kept, keeps]

/-- A workspace that is one block is read with unknown ones put in it. -/
theorem ofWorkspace_object_adds {members members' : List (String × Json)}
    (adds : Adds (.object members) (.object members')) {p : Option Pipeline}
    (read : ofWorkspace (Json.object members).settled = .ok p) :
    ∃ p', ofWorkspace (Json.object members').settled = .ok p' ∧ p'.map trimmed = p.map trimmed := by
  obtain ⟨b, reads, same⟩ := bind_eq_ok.mp read
  obtain rfl := Except.ok.inj same
  obtain ⟨b', read', trims⟩ := Block.ofValueWithin_adds _ adds (Nat.lt_succ_self _) reads
  refine ⟨first [b'], bind_eq_ok.mpr ⟨b', read', rfl⟩, ?_⟩
  rw [← first_kept, ← first_kept, Block.kept_cons_congr trims rfl]

end Pipeline

end Pipewright
