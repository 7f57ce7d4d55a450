import Mathlib.Data.List.Forall2
import Pipewright.Proofs.Workflow.NormalForm

/-!
# Groups of triggers

Triggers are put into groups one after another, into the group of their kind or into a new one at
the end, and a schedule without a time is left out once all of them are in. What comes of it is
said here without the loop: which kinds have a group and in which order, what each group holds
(`TriggerGroup.AreGroupsOf`), and what the event of a group says of it (`TriggerGroup.Says`). The
groups written as triggers again, one for each group and one for each time of a schedule, make the
same groups as far as a document shows them, so the document of a pipeline is that of its groups
(`Pipeline.triggers_grouped`).
-/
namespace Pipewright

/-! ## First occurrences -/

section FirstOccurrences

variable {α β : Type} [DecidableEq β]

/-- Where a value is first seen among things, of which each shows one at most. -/
def firstSeen (view : α → Option β) (things : List α) (value : β) : Nat :=
  things.findIdx fun thing => view thing = some value

/-- Whether values are those that things show, each once, in the order in which they are first
seen. -/
structure AreFirstSeen (view : α → Option β) (values : List β) (things : List α) : Prop where
  /-- They are those that things show. -/
  mem_iff : ∀ value, value ∈ values ↔ ∃ thing ∈ things, view thing = some value
  /-- None is there twice. -/
  distinct : values.Nodup
  /-- One that is seen before another one stands before it. -/
  ordered : values.Pairwise fun value later =>
    firstSeen view things value < firstSeen view things later

variable {view : α → Option β} {things : List α} {value : β}

/-- A value is first seen among things when one of them shows it. -/
theorem firstSeen_lt_length_iff :
    firstSeen view things value < things.length ↔ ∃ thing ∈ things, view thing = some value := by
  rw [firstSeen, List.findIdx_lt_length]
  simp

/-- A value that is seen is first seen at the same place when one thing more is looked at. -/
theorem firstSeen_append_of_seen (seen : ∃ thing ∈ things, view thing = some value) (thing : α) :
    firstSeen view (things ++ [thing]) value = firstSeen view things value := by
  have found := firstSeen_lt_length_iff.mpr seen
  rw [firstSeen] at found
  rw [firstSeen, List.findIdx_append, if_pos found]
  rfl

/-- A value that has not been seen before is first seen in the thing that shows it now. -/
theorem firstSeen_append_of_unseen {thing : α} (shows : view thing = some value)
    (unseen : ¬∃ thing ∈ things, view thing = some value) :
    firstSeen view (things ++ [thing]) value = things.length := by
  have passed := mt firstSeen_lt_length_iff.mp unseen
  rw [firstSeen] at passed
  rw [firstSeen, List.findIdx_append, if_neg passed, List.findIdx_cons]
  simp [shows]

/-- What is left when repetitions are erased is in the order in which it is first seen. -/
theorem areFirstSeen_eraseDups (view : α → Option β) (things : List α) :
    AreFirstSeen view (things.filterMap view).eraseDups things := by
  have mem_iff (things : List α) (value : β) : value ∈ (things.filterMap view).eraseDups ↔
      ∃ thing ∈ things, view thing = some value := by
    rw [List.mem_eraseDups, List.mem_filterMap]
  refine ⟨mem_iff things, TriggerGroup.nodup_eraseDups _, ?_⟩
  induction things using List.reverseRecOn with
  | nil => exact List.Pairwise.nil
  | append_singleton things thing ih =>
    -- What was seen before stays where it is, and a new value comes after all of it.
    have kept : (things.filterMap view).eraseDups.Pairwise fun value later =>
        firstSeen view (things ++ [thing]) value < firstSeen view (things ++ [thing]) later := by
      refine ih.imp_of_mem fun {value later} member memberLater before => ?_
      rw [firstSeen_append_of_seen ((mem_iff things value).mp member),
        firstSeen_append_of_seen ((mem_iff things later).mp memberLater)]
      exact before
    cases shows : view thing with
    | none => simpa [shows] using kept
    | some new =>
      rw [List.filterMap_append, List.filterMap_cons_some shows, List.filterMap_nil,
        TriggerGroup.eraseDups_append_one]
      split
      · exact kept
      · next absent =>
        have unseen : ¬∃ thing ∈ things, view thing = some new :=
          fun seen => absent (List.mem_filterMap.mpr seen)
        refine List.pairwise_append.mpr ⟨kept, List.pairwise_singleton _ _, ?_⟩
        intro value member later isNew
        have seen := (mem_iff things value).mp member
        rw [List.mem_singleton.mp isNew, firstSeen_append_of_unseen shows unseen,
          firstSeen_append_of_seen seen]
        exact firstSeen_lt_length_iff.mpr seen

/-- Erasing repetitions before or after some values are left out is the same. -/
theorem eraseDups_filter (keep : β → Bool) (values : List β) :
    (values.filter keep).eraseDups = values.eraseDups.filter keep := by
  induction values using List.reverseRecOn with
  | nil => rfl
  | append_singleton values value ih =>
    rw [TriggerGroup.eraseDups_append_one, List.filter_append]
    by_cases kept : keep value = true
    · rw [List.filter_cons_of_pos kept, List.filter_nil, TriggerGroup.eraseDups_append_one, ih]
      by_cases again : value ∈ values
      · rw [if_pos again, if_pos (List.mem_filter.mpr ⟨again, kept⟩)]
      · rw [if_neg again, if_neg (mt (fun member => (List.mem_filter.mp member).1) again),
          List.filter_append, List.filter_cons_of_pos kept, List.filter_nil]
    · rw [List.filter_cons_of_neg kept, List.filter_nil, List.append_nil, ih]
      split
      · rfl
      · rw [List.filter_append, List.filter_cons_of_neg kept, List.filter_nil, List.append_nil]

/-- Nothing is erased where there is no repetition. -/
theorem eraseDups_of_nodup {values : List β} (distinct : values.Nodup) :
    values.eraseDups = values := by
  induction values using List.reverseRecOn with
  | nil => rfl
  | append_singleton values value ih =>
    obtain ⟨before, -, apart⟩ := List.nodup_append.mp distinct
    have new : value ∉ values := fun again => apart value again value (by simp) rfl
    rw [TriggerGroup.eraseDups_append_one, if_neg new, ih before]

end FirstOccurrences

/-! ## What the groups hold -/

/-- A trigger is of the kind that it names, a start by hand also when it is named manual. -/
theorem Trigger.kind?_eq_some_iff {t : Trigger} {kind : EventKind} :
    t.kind? = some kind ↔
      t.event = kind.name ∨ kind = .workflowDispatch ∧ t.event = "manual" := by
  unfold Trigger.kind?
  cases kind <;> grind [EventKind.name]

namespace TriggerGroup

/-- Whether groups are those of triggers. -/
structure AreGroupsOf (triggers : List Trigger) (groups : List TriggerGroup) : Prop where
  /-- The kind of a trigger is the one that it names. -/
  named : ∀ t ∈ triggers, ∀ kind, t.kind? = some kind ↔
    t.event = kind.name ∨ kind = .workflowDispatch ∧ t.event = "manual"
  /-- No two groups are of one kind. -/
  distinct : (groups.map kind).Nodup
  /-- A group stands before another one when the first trigger of its kind does. -/
  ordered : groups.Pairwise fun group later =>
    firstSeen Trigger.kind? triggers group.kind < firstSeen Trigger.kind? triggers later.kind
  /-- Every kind that occurs has a group, a schedule if one of its triggers has a time. -/
  kinds_iff : ∀ kind, (∃ group ∈ groups, group.kind = kind) ↔
    (∃ t, t ∈ triggersOf triggers kind) ∧
      (kind = .schedule → ∃ t ∈ triggersOf triggers kind, t.cron ≠ none)
  /-- The branches of a group are those of all triggers of its kind, each once, in order. -/
  branches : ∀ group ∈ groups,
    AreFirstSeen some group.branches ((triggersOf triggers group.kind).flatMap Trigger.branches)
  /-- The times of a group are those of all triggers of its kind, in order. -/
  crons : ∀ group ∈ groups,
    group.crons = (triggersOf triggers group.kind).filterMap Trigger.cron
  /-- Where the triggers of some kinds are left out, or those of no kind, their groups are missing
  and the others are the same. -/
  independent : ∀ keep : Option EventKind → Bool,
    ofTriggers (triggers.filter fun t => keep t.kind?) =
      groups.filter fun group => keep (some group.kind)

/-- Whether an event is what a group says: the event of its kind, with the branches or the times of
the group if they matter for that kind. -/
inductive Says : TriggerGroup → Event → Prop where
  /-- A push is limited to the branches. -/
  | push (branches crons : List String) : Says ⟨.push, branches, crons⟩ (.push branches)
  /-- So is a pull request. -/
  | pullRequest (branches crons : List String) :
      Says ⟨.pullRequest, branches, crons⟩ (.pullRequest branches)
  /-- A schedule has the times. -/
  | schedule (branches crons : List String) : Says ⟨.schedule, branches, crons⟩ (.schedule crons)
  /-- A start by hand has neither. -/
  | workflowDispatch (branches crons : List String) :
      Says ⟨.workflowDispatch, branches, crons⟩ .workflowDispatch

/-- A group says its event. -/
theorem says_event (group : TriggerGroup) : group.Says group.event := by
  obtain ⟨kind, branches, crons⟩ := group
  cases kind with
  | push => exact .push branches crons
  | pullRequest => exact .pullRequest branches crons
  | schedule => exact .schedule branches crons
  | workflowDispatch => exact .workflowDispatch branches crons

variable {triggers : List Trigger}

/-- The groups are those of the kinds that occur, each with all that its triggers say, but for those
that say nothing. -/
theorem ofTriggers_eq (triggers : List Trigger) :
    ofTriggers triggers = ((kindsOf triggers).map (whole triggers)).filter isHeard := by
  have groups := insertAll_wholes [] triggers
  rw [List.nil_append] at groups
  exact congrArg (List.filter isHeard) groups

/-- A group is the whole one of a kind that occurs. -/
theorem mem_ofTriggers_iff {group : TriggerGroup} :
    group ∈ ofTriggers triggers ↔
      group.kind ∈ kindsOf triggers ∧ group = whole triggers group.kind ∧ group.isHeard = true := by
  rw [ofTriggers_eq, List.mem_filter, List.mem_map]
  constructor
  · rintro ⟨⟨kind, occurs, rfl⟩, heard⟩
    exact ⟨occurs, rfl, heard⟩
  · rintro ⟨occurs, same, heard⟩
    exact ⟨⟨group.kind, occurs, same.symm⟩, heard⟩

/-- All that the triggers of a kind say is heard unless it is a schedule without a time. -/
theorem isHeard_whole_iff {kind : EventKind} :
    (whole triggers kind).isHeard = true ↔
      (kind = .schedule → ∃ t ∈ triggersOf triggers kind, t.cron ≠ none) := by
  have timeless : cronsOf triggers kind = [] ↔ ∀ t ∈ triggersOf triggers kind, t.cron = none :=
    List.filterMap_eq_nil_iff
  simp only [isHeard, whole, Bool.or_eq_true, bne_iff_ne, Bool.not_eq_true',
    List.isEmpty_eq_false_iff, ne_eq, timeless]
  grind

/-- Leaving out the triggers of some kinds leaves out their groups. -/
theorem ofTriggers_filter (keep : Option EventKind → Bool) (triggers : List Trigger) :
    ofTriggers (triggers.filter fun t => keep t.kind?) =
      (ofTriggers triggers).filter fun group => keep (some group.kind) := by
  have kinds : kindsOf (triggers.filter fun t => keep t.kind?) =
      (kindsOf triggers).filter fun kind => keep (some kind) := by
    rw [kindsOf, kindsOf, ← eraseDups_filter]
    congr 1
    induction triggers with
    | nil => rfl
    | cons t triggers ih => grind
  have wholes : ∀ kind ∈ (kindsOf triggers).filter fun kind => keep (some kind),
      whole (triggers.filter fun t => keep t.kind?) kind = whole triggers kind := by
    intro kind member
    have kept : keep (some kind) = true := (List.mem_filter.mp member).2
    have same : triggersOf (triggers.filter fun t => keep t.kind?) kind =
        triggersOf triggers kind := by
      rw [triggersOf, List.filter_filter]
      refine List.filter_congr fun t _ => ?_
      by_cases named : t.kind? = some kind
      · simp [named, kept]
      · simp [named]
    rw [whole, branchesOf, cronsOf, same]
    rfl
  have commuted : ((kindsOf triggers).filter fun kind => keep (some kind)).map (whole triggers) =
      ((kindsOf triggers).map (whole triggers)).filter fun group => keep (some group.kind) := by
    rw [List.filter_map]
    rfl
  calc ofTriggers (triggers.filter fun t => keep t.kind?)
      = (((kindsOf triggers).filter fun kind => keep (some kind)).map
          (whole triggers)).filter isHeard := by
        rw [ofTriggers_eq, kinds, List.map_congr_left wholes]
    _ = (((kindsOf triggers).map (whole triggers)).filter
          fun group => keep (some group.kind)).filter isHeard := by
        rw [commuted]
    _ = (ofTriggers triggers).filter fun group => keep (some group.kind) := by
        rw [ofTriggers_eq, List.filter_filter, List.filter_filter]
        simp only [Bool.and_comm]

/-- The groups of triggers are what they are meant to be. -/
theorem areGroupsOf_ofTriggers (triggers : List Trigger) :
    AreGroupsOf triggers (ofTriggers triggers) where
  named := fun _ _ _ => Trigger.kind?_eq_some_iff
  distinct := by
    rw [ofTriggers_eq]
    have kinds : ((kindsOf triggers).map (whole triggers)).map kind = kindsOf triggers := by
      rw [List.map_map]
      exact List.map_id _
    have distinct : (((kindsOf triggers).map (whole triggers)).map kind).Nodup :=
      kinds.symm ▸ nodup_eraseDups _
    exact distinct.sublist (List.filter_sublist.map kind)
  ordered := by
    rw [ofTriggers_eq]
    refine List.Pairwise.filter _ (List.pairwise_map.mpr ?_)
    exact (areFirstSeen_eraseDups Trigger.kind? triggers).ordered
  kinds_iff := by
    intro kind
    rw [← mem_kindsOf_iff, ← isHeard_whole_iff]
    constructor
    · rintro ⟨group, member, rfl⟩
      obtain ⟨occurs, same, heard⟩ := mem_ofTriggers_iff.mp member
      exact ⟨occurs, same ▸ heard⟩
    · rintro ⟨occurs, heard⟩
      exact ⟨whole triggers kind, mem_ofTriggers_iff.mpr ⟨occurs, rfl, heard⟩, rfl⟩
  branches := by
    intro group member
    have same := (mem_ofTriggers_iff.mp member).2.1
    have all := areFirstSeen_eraseDups some
      ((triggersOf triggers group.kind).flatMap Trigger.branches)
    rw [List.filterMap_some] at all
    rw [same]
    exact all
  crons := by
    intro group member
    exact congrArg crons (mem_ofTriggers_iff.mp member).2.1
  independent := fun keep => ofTriggers_filter keep triggers

/-! ## Groups as triggers -/

/-- A group written as triggers: one for each time of a schedule, and one for any other group. -/
def toTriggers (group : TriggerGroup) : List Trigger :=
  match group.kind with
  | .schedule => group.crons.map fun cron => ⟨"schedule", [], some cron⟩
  | kind => [⟨kind.name, group.branches, none⟩]

/-- A group without what no document shows of it: the branches of a schedule, and the times of any
other group. -/
def shown (group : TriggerGroup) : TriggerGroup :=
  match group.kind with
  | .schedule => ⟨.schedule, [], group.crons⟩
  | kind => ⟨kind, group.branches, []⟩

/-- What no document shows of a group makes no difference to its event. -/
theorem event_shown (group : TriggerGroup) : group.shown.event = group.event := by
  obtain ⟨kind, branches, crons⟩ := group
  cases kind <;> rfl

/-- Nor to its kind. -/
theorem kind_shown (group : TriggerGroup) : group.shown.kind = group.kind := by
  obtain ⟨kind, branches, crons⟩ := group
  cases kind <;> rfl

/-- Nor to whether it says anything. -/
theorem isHeard_shown (group : TriggerGroup) : group.shown.isHeard = group.isHeard := by
  obtain ⟨kind, branches, crons⟩ := group
  cases kind <;> rfl

/-- Triggers that are put in after others go on from their groups. -/
theorem insertAll_append (groups : List TriggerGroup) (triggers later : List Trigger) :
    insertAll groups (triggers ++ later) = insertAll (insertAll groups triggers) later := by
  induction triggers generalizing groups with
  | nil => rfl
  | cons t triggers ih =>
    rw [List.cons_append, insertAll, insertAll]
    split
    · exact ih _
    · exact ih _

variable {groups : List TriggerGroup} {kind : EventKind} {t : Trigger}

/-- A trigger of a new kind makes a group at the end. -/
theorem insert_of_new (new : kind ∉ groups.map TriggerGroup.kind) :
    insert kind t groups = groups ++ [(empty kind).push t] := by
  induction groups with
  | nil => rfl
  | cons group groups ih =>
    rw [List.map_cons, List.mem_cons, not_or] at new
    rw [insert, if_neg (Ne.symm new.1), ih new.2, List.cons_append]

/-- A trigger of the kind of the last group, and of no other, goes into that one. -/
theorem insert_of_last {last : TriggerGroup} (named : last.kind = kind)
    (new : kind ∉ groups.map TriggerGroup.kind) :
    insert kind t (groups ++ [last]) = groups ++ [last.push t] := by
  induction groups with
  | nil => rw [List.nil_append, insert, if_pos named, List.nil_append]
  | cons group groups ih =>
    rw [List.map_cons, List.mem_cons, not_or] at new
    rw [List.cons_append, insert, if_neg (Ne.symm new.1), ih new.2, List.cons_append]

/-- The times of a schedule go into the last group one after another. -/
theorem insertAll_crons (new : .schedule ∉ groups.map TriggerGroup.kind) (crons more : List String) :
    insertAll (groups ++ [⟨.schedule, [], crons⟩])
        (more.map fun cron => ⟨"schedule", [], some cron⟩) =
      groups ++ [⟨.schedule, [], crons ++ more⟩] := by
  induction more generalizing crons with
  | nil => rw [List.append_nil]; rfl
  | cons cron more ih =>
    have named : Trigger.kind? ⟨"schedule", [], some cron⟩ = some .schedule := by
      rw [Trigger.kind?_eq_some_iff]
      exact .inl rfl
    have pushed : insert .schedule ⟨"schedule", [], some cron⟩ (groups ++ [⟨.schedule, [], crons⟩]) =
        groups ++ [⟨.schedule, [], crons ++ [cron]⟩] :=
      insert_of_last rfl new
    rw [List.map_cons, insertAll, named]
    dsimp only
    rw [pushed, ih, List.append_assoc, List.singleton_append]

/-- The triggers of a group of a new kind make it again at the end. -/
theorem insertAll_toTriggers {group : TriggerGroup}
    (new : group.kind ∉ groups.map TriggerGroup.kind) (distinct : group.branches.Nodup)
    (heard : group.isHeard = true) :
    insertAll groups group.toTriggers = groups ++ [group.shown] := by
  obtain ⟨kind, branches, crons⟩ := group
  have united : unite [] branches = branches := by
    have all := unite_eraseDups [] branches
    rwa [List.nil_append, eraseDups_of_nodup distinct] at all
  have one (t : Trigger) (named : t.kind? = some kind) :
      insertAll groups [t] = groups ++ [(empty kind).push t] := by
    rw [insertAll, named]
    exact insert_of_new new
  cases kind with
  | schedule =>
    cases crons with
    | nil => cases heard
    | cons cron crons =>
      have named : Trigger.kind? ⟨"schedule", [], some cron⟩ = some .schedule := by
        rw [Trigger.kind?_eq_some_iff]
        exact .inl rfl
      change insertAll groups ([⟨"schedule", [], some cron⟩] ++ _) = _
      rw [insertAll_append, one _ named]
      exact insertAll_crons new [cron] crons
  | _ =>
    simp only [toTriggers, shown]
    rw [one _ (Trigger.kind?_eq_some_iff.mpr (.inl rfl))]
    simp [push, empty, united]

/-- The triggers of groups of distinct kinds make these groups again. -/
theorem insertAll_flatMap_toTriggers (before later : List TriggerGroup)
    (distinct : ((before ++ later).map TriggerGroup.kind).Nodup)
    (sound : ∀ group ∈ later, group.branches.Nodup ∧ group.isHeard = true) :
    insertAll before (later.flatMap toTriggers) = before ++ later.map shown := by
  induction later generalizing before with
  | nil => rw [List.map_nil, List.append_nil]; rfl
  | cons group later ih =>
    have new : group.kind ∉ before.map TriggerGroup.kind := by
      rw [List.map_append, List.map_cons, List.nodup_append] at distinct
      exact fun again => distinct.2.2 _ again _ List.mem_cons_self rfl
    obtain ⟨united, heard⟩ := sound group List.mem_cons_self
    have next : ((before ++ [group.shown] ++ later).map TriggerGroup.kind).Nodup := by
      simpa [kind_shown] using distinct
    rw [List.flatMap_cons, insertAll_append, insertAll_toTriggers new united heard,
      ih _ next fun other member => sound other (List.mem_cons_of_mem _ member), List.map_cons,
      List.append_assoc]
    rfl

/-- The groups of the triggers of groups are these groups, as far as they are shown. -/
theorem ofTriggers_toTriggers (triggers : List Trigger) :
    ofTriggers ((ofTriggers triggers).flatMap toTriggers) = (ofTriggers triggers).map shown := by
  have groups := areGroupsOf_ofTriggers triggers
  have sound : ∀ group ∈ ofTriggers triggers, group.branches.Nodup ∧ group.isHeard = true :=
    fun group member => ⟨(groups.branches group member).distinct,
      (mem_ofTriggers_iff.mp member).2.2⟩
  have again := insertAll_flatMap_toTriggers [] (ofTriggers triggers) groups.distinct sound
  rw [ofTriggers, again, List.nil_append, List.filter_eq_self]
  intro group member
  obtain ⟨whole, isGroup, rfl⟩ := List.mem_map.mp member
  rw [isHeard_shown]
  exact (sound whole isGroup).2

end TriggerGroup

/-- A pipeline whose triggers are those of their groups, before everything else. -/
def Pipeline.regrouped (p : Pipeline) : Pipeline :=
  { p with
    children := ((TriggerGroup.ofTriggers p.triggers).flatMap TriggerGroup.toTriggers).map
      Block.trigger ++ p.children.filter fun b => b.trigger?.isNone }

/-- What is not a trigger is still there in a pipeline whose triggers are replaced. -/
theorem Pipeline.filterMap_regrouped {α : Type} (p : Pipeline) {view : Block → Option α}
    (blind : ∀ t, view (.trigger t) = none) :
    p.regrouped.children.filterMap view = p.children.filterMap view := by
  have unseen : ∀ triggers : List Trigger, (triggers.map Block.trigger).filterMap view = [] := by
    intro triggers
    rw [List.filterMap_map]
    exact List.filterMap_eq_nil_iff.mpr fun t _ => blind t
  have kept : ∀ blocks : List Block,
      (blocks.filter fun b => b.trigger?.isNone).filterMap view = blocks.filterMap view := by
    intro blocks
    rw [List.filterMap_filter]
    refine congrArg (blocks.filterMap ·) (funext fun b => ?_)
    cases b with
    | trigger t => exact (blind t).symm
    | _ => rfl
  rw [regrouped, List.filterMap_append, unseen, kept, List.nil_append]

/-- The triggers of a pipeline whose triggers are replaced are those that replace them. -/
theorem Pipeline.triggers_regrouped (p : Pipeline) :
    p.regrouped.triggers =
      (TriggerGroup.ofTriggers p.triggers).flatMap TriggerGroup.toTriggers := by
  have own : ∀ triggers : List Trigger,
      (triggers.map Block.trigger).filterMap Block.trigger? = triggers := by
    intro triggers
    rw [List.filterMap_map]
    exact List.filterMap_some
  have others : (p.children.filter fun b => b.trigger?.isNone).filterMap Block.trigger? = [] := by
    refine List.filterMap_eq_nil_iff.mpr fun b member => ?_
    simpa using (List.mem_filter.mp member).2
  rw [Pipeline.triggers, regrouped, List.filterMap_append, own, others, List.append_nil]

/-- A pipeline says the same when its triggers are replaced by those of their groups. -/
theorem Workflow.ofPipeline_regrouped (p : Pipeline) :
    Workflow.ofPipeline p.regrouped = Workflow.ofPipeline p := by
  have events : (TriggerGroup.ofTriggers p.regrouped.triggers).map TriggerGroup.event =
      (TriggerGroup.ofTriggers p.triggers).map TriggerGroup.event := by
    rw [p.triggers_regrouped, TriggerGroup.ofTriggers_toTriggers, List.map_map]
    exact List.map_congr_left fun group _ => group.event_shown
  have jobs : p.regrouped.jobs = p.jobs := p.filterMap_regrouped fun _ => rfl
  have env : p.regrouped.env = p.env := p.filterMap_regrouped fun _ => rfl
  rw [Workflow.ofPipeline, Workflow.ofPipeline, events, jobs, env]
  rfl

/-- The events of a workflow are what the groups of the triggers say, in their order. -/
theorem Workflow.says_events (p : Pipeline) :
    List.Forall₂ TriggerGroup.Says (TriggerGroup.ofTriggers p.triggers)
      (Workflow.ofPipeline p).events := by
  rw [Workflow.ofPipeline, List.forall₂_map_right_iff]
  exact List.forall₂_same.mpr fun group _ => group.says_event

/-- Grouping triggers loses and repeats nothing: the groups are those of the kinds that the triggers
name, in the order in which these first occur, with all that the triggers of the kind say; the
events of the workflow are what these groups say; and a pipeline whose triggers are replaced by
those of its groups has the same document. -/
theorem Pipeline.triggers_grouped (p : Pipeline) :
    TriggerGroup.AreGroupsOf p.triggers (TriggerGroup.ofTriggers p.triggers) ∧
      List.Forall₂ TriggerGroup.Says (TriggerGroup.ofTriggers p.triggers)
        (Workflow.ofPipeline p).events ∧
      (TriggerGroup.ofTriggers p.regrouped.triggers).map TriggerGroup.event =
        (TriggerGroup.ofTriggers p.triggers).map TriggerGroup.event ∧
      Pipeline.document (some p.regrouped) = Pipeline.document (some p) := by
  have same := Workflow.ofPipeline_regrouped p
  exact ⟨TriggerGroup.areGroupsOf_ofTriggers p.triggers, Workflow.says_events p,
    congrArg Workflow.events same, congrArg Workflow.document same⟩

end Pipewright
