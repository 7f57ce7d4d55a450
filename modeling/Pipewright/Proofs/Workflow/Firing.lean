import Pipewright.Proofs.Workflow.Keys

/-!
# When a workflow fires

A trigger that is limited to branches fires on those that one of its patterns matches, and one that
is not limited fires on all. The same is read off an event in a document, whatever patterns match
(`Yaml.Node.fires`). The triggers of a kind become one event that lists the branches of all of them,
so a trigger without branches adds nothing to the list of the others: the event fires where one of
the triggers does, unless some list branches and none of those matches
(`Pipeline.fires_document_iff`).
-/
namespace Pipewright

open Yaml

/-- Whether a trigger fires on a branch, given which patterns match it. -/
def Trigger.fires (matching : String → String → Bool) (t : Trigger) (branch : String) : Bool :=
  t.branches.isEmpty || t.branches.any fun pattern => matching pattern branch

namespace Yaml.Node

/-- The characters of a scalar. -/
def content? : Node → Option String
  | scalar s => some s.content
  | _ => none

/-- Whether an event that has been read fires on a branch: always, or when one of the patterns that
it lists matches. -/
def firesOn (matching : String → String → Bool) (event : Node) (branch : String) : Bool :=
  match event.get? "branches" with
  | none => true
  | some list =>
    (list.items?.getD []).any fun pattern => pattern.content?.any fun text => matching text branch

/-- Whether a document that has been read fires on a branch for events of a kind. -/
def fires (matching : String → String → Bool) (node : Node) (kind : EventKind) (branch : String) :
    Bool :=
  ((node.get? "on").bind fun events => events.get? kind.name).any fun event =>
    event.firesOn matching branch

end Yaml.Node

variable {matching : String → String → Bool} {branch : String}

/-- What an event is limited to is read as its branches. -/
theorem firesOn_limits (branches : List String) :
    (Event.limits branches).firesOn matching branch =
      (branches.isEmpty || branches.any fun pattern => matching pattern branch) := by
  cases branches with
  | nil => rfl
  | cons first branches =>
    have found : (Event.limits (first :: branches)).get? "branches" =
      some (namesNode (first :: branches)) := get?_word (by decide) _ []
    rw [Node.firesOn, found, List.isEmpty_cons, Bool.false_or]
    exact List.any_map

/-- An event is an entry under the name of its kind. -/
theorem Event.entry_eq (e : Event) : e.entry = (word e.kind.name, e.entry.2) := by
  cases e <;> rfl

/-- The name of a kind is one of the document's own. -/
theorem EventKind.name_mem_ownWords (kind : EventKind) : kind.name ∈ ownWords := by
  cases kind <;> decide

/-- The event of a kind is found under the name of this kind. -/
theorem get?_events (triggers : List Trigger) (kind : EventKind) (kinds : List EventKind) :
    (Node.mapping ((kinds.filterMap (eventOf? triggers)).map Event.entry)).get? kind.name =
      if kind ∈ kinds then (eventOf? triggers kind).map fun e => e.entry.2 else none := by
  induction kinds with
  | nil => rfl
  | cons first kinds ih =>
    cases event : eventOf? triggers first with
    | none =>
      rw [List.filterMap_cons_none event, ih]
      by_cases same : kind = first
      · subst same
        simp [event]
      · simp [same]
    | some e =>
      rw [List.filterMap_cons_some event, List.map_cons, e.entry_eq,
        get?_word (EventKind.name_mem_ownWords _), kind_of_eventOf event, ih]
      by_cases same : first = kind
      · subst same
        simp [event]
      · have apart : first.name ≠ kind.name := mt EventKind.name_inj same
        simp [apart, Ne.symm same]

/-- The branches of a kind are those of its triggers. -/
theorem mem_branchesOf_iff {triggers : List Trigger} {kind : EventKind} {pattern : String} :
    pattern ∈ branchesOf triggers kind ↔ ∃ t ∈ triggersOf triggers kind, pattern ∈ t.branches := by
  simp [branchesOf]

/-- A kind has no branches when none of its triggers lists any. -/
theorem branchesOf_eq_nil_iff {triggers : List Trigger} {kind : EventKind} :
    branchesOf triggers kind = [] ↔ ∀ t ∈ triggersOf triggers kind, t.branches = [] := by
  rw [List.eq_nil_iff_forall_not_mem]
  simp only [mem_branchesOf_iff, not_exists, not_and, List.eq_nil_iff_forall_not_mem]
  exact ⟨fun none t member pattern => none pattern t member,
    fun none pattern t member => none t member pattern⟩

/-- A trigger fires when it lists no branches, or one that matches. -/
theorem Trigger.fires_iff {t : Trigger} :
    t.fires matching branch = true ↔
      t.branches = [] ∨ ∃ pattern ∈ t.branches, matching pattern branch = true := by
  rw [Trigger.fires, Bool.or_eq_true, List.isEmpty_iff, List.any_eq_true]

/-- The document of a pipeline fires when there is a trigger of the kind, and none of them lists
branches or one lists a branch that matches. -/
theorem fires_node_iff (p : Pipeline) {kind : EventKind}
    (limited : kind = .push ∨ kind = .pullRequest) :
    (Workflow.ofPipeline p).node.fires matching kind branch = true ↔
      kind ∈ kindsOf p.triggers ∧ (branchesOf p.triggers kind = [] ∨
        ∃ pattern ∈ branchesOf p.triggers kind, matching pattern branch = true) := by
  have events : (Workflow.ofPipeline p).node.get? "on" =
      some (.mapping (((kindsOf p.triggers).filterMap (eventOf? p.triggers)).map Event.entry)) := by
    rw [Workflow.ofPipeline_eq, Pipeline.normalForm]
    simp (disch := decide) [Workflow.node, Workflow.entries, get?_word]
  have limits : (eventOf? p.triggers kind).map (fun e => e.entry.2) =
      some (Event.limits (branchesOf p.triggers kind)) := by
    rcases limited with rfl | rfl <;> rfl
  rw [Node.fires, events, Option.bind_some, get?_events, limits]
  by_cases known : kind ∈ kindsOf p.triggers
  · rw [if_pos known, Option.any_some, firesOn_limits]
    simp [known]
  · simp [known]

/-- The document of a pipeline fires on a branch for pushes or pull requests just when one of its
triggers does, unless some trigger of the kind lists branches and none of those matches: then the
triggers of the kind that list none are not heard. -/
theorem Pipeline.fires_document_iff (p : Pipeline) (matching : String → String → Bool)
    (branch : String) (kind : EventKind) (limited : kind = .push ∨ kind = .pullRequest) :
    ∃ node, Yaml.read (Pipeline.document (some p)) = some node ∧
      (node.fires matching kind branch = true ↔
        (∃ t ∈ triggersOf p.triggers kind, t.fires matching branch = true) ∧
        ¬((∃ t ∈ triggersOf p.triggers kind, t.branches ≠ []) ∧
          ∀ t ∈ triggersOf p.triggers kind, ∀ pattern ∈ t.branches,
            matching pattern branch = false)) := by
  refine ⟨(Workflow.ofPipeline p).node, Workflow.read_document _, ?_⟩
  rw [fires_node_iff p limited, mem_kindsOf_iff, branchesOf_eq_nil_iff]
  simp only [mem_branchesOf_iff]
  constructor
  · rintro ⟨⟨t, isTrigger⟩, unlimited | ⟨pattern, ⟨lister, isLister, listed⟩, matched⟩⟩
    · refine ⟨⟨t, isTrigger, Trigger.fires_iff.mpr (.inl (unlimited t isTrigger))⟩, ?_⟩
      rintro ⟨⟨other, isOther, lists⟩, -⟩
      exact lists (unlimited other isOther)
    · refine ⟨⟨lister, isLister, Trigger.fires_iff.mpr (.inr ⟨pattern, listed, matched⟩)⟩, ?_⟩
      rintro ⟨-, unmatched⟩
      rw [unmatched lister isLister pattern listed] at matched
      cases matched
  · rintro ⟨⟨t, isTrigger, fires⟩, heard⟩
    refine ⟨⟨t, isTrigger⟩, ?_⟩
    by_cases unlimited : ∀ t ∈ triggersOf p.triggers kind, t.branches = []
    · exact .inl unlimited
    · -- Some trigger lists branches, so one that is listed matches, or all of this is unheard.
      right
      by_contra unmatched
      refine heard ⟨by simpa using unlimited, fun t isTrigger pattern listed => ?_⟩
      exact Bool.eq_false_iff.mpr fun matched =>
        unmatched ⟨pattern, ⟨t, isTrigger, listed⟩, matched⟩

/-- A pipeline that is to run on every push, and says once more that it does on one branch. -/
def twicePushed : Pipeline :=
  ⟨"ci", false, [.trigger ⟨"push", [], none⟩, .trigger ⟨"push", ["main"], none⟩]⟩

/-- The document of a pipeline may leave out a branch on which one of its triggers fires. -/
theorem twicePushed_unheard :
    (∃ t ∈ triggersOf twicePushed.triggers .push, t.fires (· == ·) "develop" = true) ∧
      ∃ node, Yaml.read (Pipeline.document (some twicePushed)) = some node ∧
        node.fires (· == ·) .push "develop" = false := by
  refine ⟨by decide, _, Workflow.read_document _, ?_⟩
  decide +kernel

/-- The document of that pipeline fires on the branch that it lists. -/
theorem twicePushed_fires_on_main :
    ∃ node, Yaml.read (Pipeline.document (some twicePushed)) = some node ∧
      node.fires (· == ·) .push "main" = true := by
  obtain ⟨node, read, fires⟩ :=
    twicePushed.fires_document_iff (· == ·) "main" .push (.inl rfl)
  exact ⟨node, read, fires.mpr (by decide)⟩

end Pipewright
