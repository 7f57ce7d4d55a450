import Mathlib.Data.List.SplitBy
import Pipewright.Command.Settle

/-!
# Changes settle burst by burst

Changes that come soon one after the other make up a burst (`Changes.bursts`). A wait for changes
is a loop of shorter ones, each for the next change until it has been quiet; it takes the changes of
one burst and leaves all others (`Changes.endBurst_append`). So waits that follow one another take
the bursts one by one, and the first that finds no change comes when there are none left and no more
can come (`Changes.waits_eq`). Each ends after the changes that it has taken, and apart from the one
before.
-/
namespace Pipewright

namespace Changes

/-- Whether changes may come from a moment on: in order, none of them once there are none any more,
and none exactly when the quiet after the one before it is over. -/
structure IsSchedule (quiet now : Nat) (changes : Changes) : Prop where
  /-- They come in order. -/
  ordered : changes.moments.Pairwise (· ≤ ·)
  /-- None has come before. -/
  coming : ∀ moment ∈ changes.moments, now ≤ moment
  /-- None comes once there are none any more. -/
  bounded : ∀ closing ∈ changes.closing, ∀ moment ∈ changes.moments, moment ≤ closing
  /-- None comes exactly when the quiet after the one before it is over. -/
  untied : changes.moments.IsChain fun moment next => next ≠ moment + quiet

/-- The bursts of changes: a change belongs to the burst of the one before it if it comes sooner
than the quiet after that is over. -/
def bursts (quiet : Nat) (changes : Changes) : List (List Nat) :=
  changes.moments.splitBy fun moment next => decide (next < moment + quiet)

/-- When a wait for a burst is over: so long after its last change, or at once when no more can
come. -/
def burstEnd (quiet : Nat) (closing : Option Nat) (burst : List Nat) : Nat :=
  match closing with
  | none => burst.getLastD 0 + quiet
  | some moment => min moment (burst.getLastD 0 + quiet)

/-- Changes only get fewer while a burst is waited for. -/
theorem length_rest_endBurst (quiet last : Nat) (closing : Option Nat) (moments : List Nat) :
    (endBurst quiet last closing moments).rest.moments.length ≤ moments.length := by
  induction moments generalizing last with
  | nil => cases closing <;> exact Nat.le_refl _
  | cons moment rest ih =>
    rw [endBurst]
    split
    · exact (ih _).trans (Nat.le_succ _)
    · exact Nat.le_refl _

/-- A wait that finds a change uses one up. -/
theorem length_rest_settle {quiet now : Nat} {changes : Changes} {wait : Settled}
    (ends : settle quiet now changes = some wait) (changed : wait.changed = true) :
    wait.rest.moments.length < changes.moments.length := by
  obtain ⟨moments, closing⟩ := changes
  cases moments with
  | nil =>
    cases closing with
    | none => cases ends
    | some moment =>
      cases ends
      cases changed
  | cons moment rest =>
    cases ends
    exact Nat.lt_succ_of_le (length_rest_endBurst _ _ _ _)

/-- The waits that follow one another from a moment on, up to one that finds no change; one that
never ends is not among them. -/
def waits (quiet now : Nat) (changes : Changes) : List Settled :=
  match ends : settle quiet now changes with
  | none => []
  | some wait =>
    if changed : wait.changed = true then
      have := length_rest_settle ends changed
      wait :: waits quiet wait.moment wait.rest
    else [wait]
termination_by changes.moments.length

section Waits

variable {quiet now : Nat} {changes : Changes} {wait : Settled}

/-- A wait that never ends is followed by none. -/
theorem waits_of_endless (endless : settle quiet now changes = none) :
    waits quiet now changes = [] := by
  rw [waits]
  split
  · rfl
  · next found => simp [endless] at found

/-- A wait that finds a change is followed by the waits for the rest. -/
theorem waits_of_changed (ends : settle quiet now changes = some wait)
    (changed : wait.changed = true) :
    waits quiet now changes = wait :: waits quiet wait.moment wait.rest := by
  rw [waits]
  split
  · next endless => simp [endless] at ends
  · next found =>
    obtain rfl := Option.some.inj (found.symm.trans ends)
    rw [dif_pos changed]

/-- A wait that finds no change is the last one. -/
theorem waits_of_unchanged (ends : settle quiet now changes = some wait)
    (unchanged : wait.changed = false) : waits quiet now changes = [wait] := by
  rw [waits]
  split
  · next endless => simp [endless] at ends
  · next found =>
    obtain rfl := Option.some.inj (found.symm.trans ends)
    rw [dif_neg (by simp [unchanged])]

/-- The wait that finds no change, for none is left and no more can come; where more can come there
is none. -/
def lastWait (now : Nat) (closing : Option Nat) : List Settled :=
  closing.toList.map fun moment => ⟨false, max now moment, ⟨[], closing⟩⟩

/-- Where no change is left there is at most one wait, which finds none. -/
theorem waits_nil (quiet now : Nat) (closing : Option Nat) :
    waits quiet now ⟨[], closing⟩ = lastWait now closing := by
  cases closing with
  | none => exact waits_of_endless rfl
  | some moment => exact waits_of_unchanged rfl rfl

end Waits

/-- A burst that goes on with another change is over when the rest of it is. -/
theorem burstEnd_cons_cons (quiet first next : Nat) (closing : Option Nat) (burst : List Nat) :
    burstEnd quiet closing (first :: next :: burst) = burstEnd quiet closing (next :: burst) := by
  cases closing <;> simp [burstEnd]

/-- Waiting for a burst takes its changes and leaves those after it, when these come after the quiet
that ends it. -/
theorem endBurst_append {quiet last : Nat} {closing : Option Nat} {burst later : List Nat}
    (dense : (last :: burst).IsChain fun moment next => next < moment + quiet)
    (ordered : (last :: (burst ++ later)).Pairwise (· ≤ ·))
    (bounded : ∀ moment ∈ closing, ∀ change ∈ last :: (burst ++ later), change ≤ moment)
    (apart : ∀ first ∈ later.head?, (last :: burst).getLastD 0 + quiet < first) :
    endBurst quiet last closing (burst ++ later) =
      ⟨true, burstEnd quiet closing (last :: burst), ⟨later, closing⟩⟩ := by
  induction burst generalizing last with
  | nil =>
    have single : burstEnd quiet closing [last] =
        closing.elim (last + quiet) fun moment => min moment (last + quiet) := by
      cases closing <;> rfl
    rw [single]
    cases later with
    | nil =>
      cases closing with
      | none => rfl
      | some moment =>
        have bound : last ≤ moment := bounded moment rfl last List.mem_cons_self
        simp only [List.nil_append, endBurst, Option.elim]
        split
        · rw [Nat.max_eq_right bound, Nat.min_eq_left (by omega)]
        · rw [Nat.min_eq_right (by omega)]
    | cons first rest =>
      have late : last + quiet < first := apart first rfl
      rw [List.nil_append, endBurst, if_neg (by omega)]
      cases closing with
      | none => rfl
      | some moment =>
        have bound : first ≤ moment := bounded moment rfl first (by simp)
        rw [Option.elim, Nat.min_eq_right (by omega)]
  | cons next burst ih =>
    obtain ⟨soon, dense⟩ := List.isChain_cons_cons.mp dense
    obtain ⟨least, ordered⟩ := List.pairwise_cons.mp ordered
    have later : last ≤ next := least next (by simp)
    rw [List.cons_append, endBurst, if_pos soon, Nat.max_eq_right later, burstEnd_cons_cons]
    exact ih dense ordered (fun moment closes change among =>
      bounded moment closes change (List.mem_cons_of_mem _ among)) (by simpa using apart)

/-- Whether lists of moments are the bursts of changes: put together they are the changes, within
each the changes come one soon after the other, and between two of them it is quiet. -/
structure AreBursts (quiet : Nat) (moments : List Nat) (bursts : List (List Nat)) : Prop where
  /-- Put together they are the changes, in order. -/
  flatten : bursts.flatten = moments
  /-- None is empty. -/
  nonempty : [] ∉ bursts
  /-- Within each the changes come one soon after the other. -/
  dense : ∀ burst ∈ bursts, burst.IsChain fun moment next => next < moment + quiet
  /-- Between two of them it is quiet. -/
  apart : bursts.IsChain fun burst next =>
    ∀ last ∈ burst.getLast?, ∀ first ∈ next.head?, last + quiet < first

/-- The bursts of changes are their bursts. -/
theorem IsSchedule.areBursts {quiet now : Nat} {changes : Changes}
    (schedule : changes.IsSchedule quiet now) :
    AreBursts quiet changes.moments (changes.bursts quiet) := by
  have flatten : (changes.bursts quiet).flatten = changes.moments := List.flatten_splitBy _ _
  have nonempty : [] ∉ changes.bursts quiet := List.nil_notMem_splitBy _ _
  refine ⟨flatten, nonempty, fun burst among => ?_, ?_⟩
  · exact (List.isChain_of_mem_splitBy among).imp fun _ _ soon => of_decide_eq_true soon
  · have untied := schedule.untied
    rw [← flatten, List.isChain_flatten nonempty] at untied
    have split : (changes.bursts quiet).IsChain fun burst next => ∃ present further,
        decide (next.head further < burst.getLast present + quiet) = false :=
      List.isChain_getLast_head_splitBy (fun moment next => decide (next < moment + quiet)) _
    rw [List.isChain_iff_getElem]
    intro i bound last isLast first isFirst
    obtain ⟨present, further, late⟩ := List.isChain_iff_getElem.mp split i bound
    have differ := List.isChain_iff_getElem.mp untied.2 i bound last isLast first isFirst
    have late := of_decide_eq_false late
    rw [List.getLast_of_mem_getLast? isLast, List.head_of_mem_head? isFirst] at late
    omega

section Bursts

variable {quiet : Nat} {closing : Option Nat} {burst : List Nat} {later : List (List Nat)}
  {moments : List Nat}

/-- The bursts after the first one are those of the changes after it. -/
theorem AreBursts.tail (areBursts : AreBursts quiet moments (burst :: later)) :
    AreBursts quiet later.flatten later where
  flatten := rfl
  nonempty := fun among => areBursts.nonempty (List.mem_cons_of_mem _ among)
  dense := fun other among => areBursts.dense other (List.mem_cons_of_mem _ among)
  apart := areBursts.apart.tail

/-- The changes after the first burst come after the quiet that ends it. -/
theorem AreBursts.quiet_after (areBursts : AreBursts quiet moments (burst :: later)) :
    ∀ first ∈ later.flatten.head?, burst.getLastD 0 + quiet < first := by
  intro first isFirst
  have present : burst ≠ [] := fun empty => areBursts.nonempty (empty ▸ List.mem_cons_self)
  cases later with
  | nil => cases isFirst
  | cons next later =>
    have further : next ≠ [] := fun empty =>
      areBursts.nonempty (empty ▸ List.mem_cons_of_mem _ List.mem_cons_self)
    rw [List.flatten_cons, List.head?_append_of_ne_nil _ further] at isFirst
    have last : burst.getLastD 0 ∈ burst.getLast? := by
      rw [List.getLastD_eq_getLast?, List.getLast?_eq_some_getLast present]
      rfl
    exact (List.isChain_cons_cons.mp areBursts.apart).1 _ last first isFirst

/-- All changes after the first burst do. -/
theorem AreBursts.lt_later (areBursts : AreBursts quiet moments (burst :: later))
    (ordered : later.flatten.Pairwise (· ≤ ·)) :
    ∀ moment ∈ later.flatten, burst.getLastD 0 + quiet < moment := by
  intro moment among
  have apart := areBursts.quiet_after
  cases split : later.flatten with
  | nil => simp [split] at among
  | cons first rest =>
    rw [split] at among ordered apart
    have late := apart first rfl
    rcases List.mem_cons.mp among with rfl | after
    · exact late
    · exact late.trans_le ((List.pairwise_cons.mp ordered).1 moment after)

/-- A wait for a burst ends no later than the quiet after it. -/
theorem burstEnd_le (quiet : Nat) (closing : Option Nat) (burst : List Nat) :
    burstEnd quiet closing burst ≤ burst.getLastD 0 + quiet := by
  cases closing with
  | none => exact Nat.le_refl _
  | some moment => exact Nat.min_le_right _ _

/-- The changes after the first burst come from the end of the wait for it on. -/
theorem IsSchedule.after_burst {now : Nat}
    (schedule : IsSchedule quiet now ⟨burst ++ later.flatten, closing⟩)
    (areBursts : AreBursts quiet (burst ++ later.flatten) (burst :: later)) :
    IsSchedule quiet (burstEnd quiet closing burst) ⟨later.flatten, closing⟩ where
  ordered := (List.pairwise_append.mp schedule.ordered).2.1
  coming := fun moment among => (burstEnd_le quiet closing burst).trans
    (areBursts.lt_later (List.pairwise_append.mp schedule.ordered).2.1 moment among).le
  bounded := fun moment closes change among =>
    schedule.bounded moment closes change (List.mem_append_right _ among)
  untied := schedule.untied.right_of_append

end Bursts

/-- The waits that take bursts one by one. -/
def takeBursts (quiet : Nat) (closing : Option Nat) : List (List Nat) → List Settled
  | [] => []
  | burst :: later =>
    ⟨true, burstEnd quiet closing burst, ⟨later.flatten, closing⟩⟩ ::
      takeBursts quiet closing later

/-- Waits take bursts one by one, and then there is one more that finds no change once no more can
come. -/
theorem waits_eq {quiet now : Nat} {changes : Changes} (schedule : changes.IsSchedule quiet now)
    {bursts : List (List Nat)} (areBursts : AreBursts quiet changes.moments bursts) :
    waits quiet now changes =
      takeBursts quiet changes.closing bursts ++ lastWait now changes.closing := by
  obtain ⟨moments, closing⟩ := changes
  induction bursts generalizing now moments with
  | nil =>
    obtain rfl := areBursts.flatten
    exact waits_nil quiet now closing
  | cons burst later ih =>
    obtain rfl := areBursts.flatten
    have after := schedule.after_burst areBursts
    have apart := areBursts.quiet_after
    have dense := areBursts.dense burst List.mem_cons_self
    cases burst with
    | nil => exact absurd List.mem_cons_self areBursts.nonempty
    | cons first burst =>
      have comes : now ≤ first := schedule.coming first List.mem_cons_self
      have ends : settle quiet now ⟨((first :: burst) :: later).flatten, closing⟩ =
          some ⟨true, burstEnd quiet closing (first :: burst), ⟨later.flatten, closing⟩⟩ := by
        have taken := endBurst_append dense schedule.ordered schedule.bounded apart
        change some (endBurst quiet (max now first) closing (burst ++ later.flatten)) = _
        rw [Nat.max_eq_right comes, taken]
      have last : lastWait (burstEnd quiet closing (first :: burst)) closing =
          lastWait now closing := by
        cases closing with
        | none => rfl
        | some moment =>
          have bound : first ≤ moment := schedule.bounded moment rfl first List.mem_cons_self
          have ends : burstEnd quiet (some moment) (first :: burst) ≤ moment := Nat.min_le_left _ _
          simp only [lastWait, Option.toList, List.map_cons, List.map_nil, Nat.max_eq_right ends,
            Nat.max_eq_right (comes.trans bound)]
      rw [waits_of_changed ends rfl, ih _ after areBursts.tail, last]
      rfl

/-- A change comes before the wait for its burst ends, or at that moment when no more can come. -/
theorem IsSchedule.le_burstEnd {quiet now : Nat} {changes : Changes}
    (schedule : changes.IsSchedule quiet now) {burst : List Nat}
    (among : burst ∈ changes.bursts quiet) {change : Nat} (member : change ∈ burst) :
    change ≤ burstEnd quiet changes.closing burst ∧
      (0 < quiet → (∀ moment ∈ changes.closing, change < moment) →
        change < burstEnd quiet changes.closing burst) := by
  have areBursts := schedule.areBursts
  have kept : burst.Sublist changes.moments :=
    areBursts.flatten ▸ List.sublist_flatten_of_mem among
  have last : change ≤ burst.getLastD 0 := by
    have ordered := schedule.ordered.sublist kept
    rcases List.eq_nil_or_concat' burst with rfl | ⟨earlier, last, rfl⟩
    · cases member
    · rw [List.getLastD_concat]
      rcases List.mem_append.mp member with before | same
      · exact (List.pairwise_append.mp ordered).2.2 change before last List.mem_cons_self
      · exact (List.mem_singleton.mp same).le
  have bounded := fun moment closes => schedule.bounded moment closes change (kept.subset member)
  unfold burstEnd
  cases closing : changes.closing with
  | none => exact ⟨by dsimp only; omega, fun _ _ => by dsimp only; omega⟩
  | some moment =>
    have bound : change ≤ moment := bounded moment closing
    refine ⟨?_, fun _ early => ?_⟩
    · dsimp only
      omega
    · have := early moment rfl
      dsimp only
      omega

/-- A wait for a burst that is not cut short ends as long after the last change as it is to be
quiet. -/
theorem burstEnd_of_open {quiet : Nat} {closing : Option Nat} {burst : List Nat}
    (isOpen : ∀ moment ∈ closing, burst.getLastD 0 + quiet ≤ moment) :
    burstEnd quiet closing burst = burst.getLastD 0 + quiet := by
  cases closing with
  | none => rfl
  | some moment => exact Nat.min_eq_right (isOpen moment rfl)

/-- The waits for two bursts end apart by the quiet when the second one is not cut short. -/
theorem AreBursts.apart_burstEnd {quiet : Nat} {moments : List Nat} {bursts : List (List Nat)}
    (areBursts : AreBursts quiet moments bursts) (ordered : moments.Pairwise (· ≤ ·))
    (closing : Option Nat) :
    bursts.Pairwise fun burst next =>
      (∀ moment ∈ closing, next.getLastD 0 + quiet ≤ moment) →
        burstEnd quiet closing burst + quiet ≤ burstEnd quiet closing next := by
  induction bursts generalizing moments with
  | nil => exact List.Pairwise.nil
  | cons burst later ih =>
    obtain rfl := areBursts.flatten
    have ordered := (List.pairwise_append.mp ordered).2.1
    refine List.pairwise_cons.mpr ⟨fun next among isOpen => ?_, ih areBursts.tail ordered⟩
    have present : next ≠ [] := fun empty =>
      areBursts.nonempty (empty ▸ List.mem_cons_of_mem _ among)
    have last : next.getLastD 0 ∈ next := by
      rw [List.getLastD_eq_getLast?, List.getLast?_eq_some_getLast present]
      exact List.getLast_mem present
    have late := areBursts.lt_later ordered _ (List.mem_flatten.mpr ⟨next, among, last⟩)
    have ends := burstEnd_le quiet closing burst
    rw [burstEnd_of_open isOpen]
    omega

end Changes

end Pipewright
