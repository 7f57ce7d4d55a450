import Mathlib.Data.List.InsertIdx
import Mathlib.Data.List.Nodup
import Mathlib.Logic.Relation
import Pipewright.Deployment.CancelToken

/-!
# Tokens that share a signal

What becomes of cancel tokens over a history in which they are made, cloned, cancelled and let go.
The history keeps to the tokens themselves, each with a number of its own. Two tokens are of one
family if clonings connect them, whether or not the tokens between are still held. A held token is
then cancelled exactly if some token of its family ever was, and its family never changes.
-/
namespace Pipewright

/-- What may be done to cancel tokens; a token that is held goes by its index. -/
inductive TokenAct where
  /-- A token of a family of its own is made. -/
  | fresh
  /-- A token is cloned. -/
  | clone (index : Nat)
  /-- A token is cancelled. -/
  | cancel (index : Nat)
  /-- A token is let go. -/
  | drop (index : Nat)

/-- What has been done to cancel tokens, which are numbered as they are made. -/
structure TokenHistory where
  /-- The tokens that are held. -/
  held : List Nat
  /-- The number of tokens that were made. -/
  made : Nat
  /-- The tokens that were cloned, each with its clone. -/
  clonings : List (Nat × Nat)
  /-- The tokens that were cancelled. -/
  cancelled : List Nat

namespace TokenHistory

/-- The history after a token was made. -/
def fresh (history : TokenHistory) : TokenHistory :=
  { history with held := history.held ++ [history.made], made := history.made + 1 }

/-- The history after one was made from another. -/
def clone (history : TokenHistory) (source : Nat) : TokenHistory :=
  { history.fresh with clonings := (source, history.made) :: history.clonings }

/-- The history after one more act. Nothing happens where no token is held at the index. -/
def act (history : TokenHistory) : TokenAct → TokenHistory
  | .fresh => history.fresh
  | .clone index =>
    match history.held[index]? with
    | none => history
    | some source => history.clone source
  | .cancel index =>
    { history with cancelled := history.held[index]?.toList ++ history.cancelled }
  | .drop index => { history with held := history.held.eraseIdx index }

/-- The history of these acts, from no tokens at all. -/
def of (acts : List TokenAct) : TokenHistory := acts.foldl act ⟨[], 0, [], []⟩

/-- Two tokens are of one family if clonings connect them. -/
def IsKin (history : TokenHistory) : Nat → Nat → Prop :=
  Relation.EqvGen fun source clone => (source, clone) ∈ history.clonings

/-- A token's family was cancelled if any token of it was. -/
def IsSignalled (history : TokenHistory) (token : Nat) : Prop :=
  ∃ source ∈ history.cancelled, history.IsKin source token

variable {history later : TokenHistory} {first second token : Nat}

/-- Kin stay kin as long as no cloning is forgotten. -/
theorem IsKin.mono (kin : history.IsKin first second)
    (kept : history.clonings ⊆ later.clonings) : later.IsKin first second :=
  (Relation.EqvGen.mono fun _ _ cloned => kept cloned) _ _ kin

/-- Whatever is alike in every token and its clone is alike in kin. -/
theorem IsKin.eq_of_clonings {α : Type} {family : Nat → α} (kin : history.IsKin first second)
    (alike : ∀ pair ∈ history.clonings, family pair.1 = family pair.2) :
    family first = family second := by
  induction kin with
  | rel source clone cloned => exact alike _ cloned
  | refl => rfl
  | symm _ _ _ same => exact same.symm
  | trans _ _ _ _ _ same next => exact same.trans next

/-- Nothing that was done is forgotten later. -/
structure Grows (history later : TokenHistory) : Prop where
  /-- Tokens stay made, -/
  made : history.made ≤ later.made
  /-- clones stay clones, -/
  clonings : history.clonings ⊆ later.clonings
  /-- and what was cancelled stays cancelled. -/
  cancelled : history.cancelled ⊆ later.cancelled

/-- No act forgets. -/
theorem grows_act (history : TokenHistory) (act : TokenAct) : history.Grows (history.act act) := by
  cases act with
  | fresh => exact ⟨Nat.le_succ _, List.Subset.refl _, List.Subset.refl _⟩
  | clone index =>
    unfold TokenHistory.act
    dsimp only
    split
    · exact ⟨Nat.le_refl _, List.Subset.refl _, List.Subset.refl _⟩
    · exact ⟨Nat.le_succ _, List.subset_cons_self _ _, List.Subset.refl _⟩
  | cancel index =>
    exact ⟨Nat.le_refl _, List.Subset.refl _, List.subset_append_right _ _⟩
  | drop index => exact ⟨Nat.le_refl _, List.Subset.refl _, List.Subset.refl _⟩

/-- No acts do. -/
theorem grows_foldl (history : TokenHistory) (acts : List TokenAct) :
    history.Grows (acts.foldl act history) := by
  induction acts generalizing history with
  | nil => exact ⟨Nat.le_refl _, List.Subset.refl _, List.Subset.refl _⟩
  | cons first rest ih =>
    have step := history.grows_act first
    have steps := ih (history.act first)
    exact ⟨Nat.le_trans step.made steps.made, fun _ cloned => steps.clonings (step.clonings cloned),
      fun _ signalled => steps.cancelled (step.cancelled signalled)⟩

/-- A family that was cancelled stays so. -/
theorem IsSignalled.mono (signalled : history.IsSignalled token) (grows : history.Grows later) :
    later.IsSignalled token := by
  obtain ⟨source, cancelled, kin⟩ := signalled
  exact ⟨source, grows.cancelled cancelled, kin.mono grows.clonings⟩

/-- To cancel a token is to cancel its family, and no other. -/
theorem isSignalled_cancel_iff {index source : Nat} (found : history.held[index]? = some source) :
    (history.act (.cancel index)).IsSignalled token ↔
      history.IsKin source token ∨ history.IsSignalled token := by
  simp only [TokenHistory.act, IsSignalled, found, Option.toList_some, List.singleton_append,
    List.mem_cons, or_and_right, exists_or, exists_eq_left]
  rfl

/-- A history tells of tokens that were made. -/
structure IsSound (history : TokenHistory) : Prop where
  /-- What is held was made, -/
  held : ∀ token ∈ history.held, token < history.made
  /-- so were tokens and their clones, -/
  clonings : ∀ pair ∈ history.clonings, pair.1 < history.made ∧ pair.2 < history.made
  /-- and so was what was cancelled. -/
  cancelled : ∀ token ∈ history.cancelled, token < history.made
  /-- No token is held twice. -/
  nodup : history.held.Nodup

/-- A token that is made is a new one. -/
theorem IsSound.fresh (sound : history.IsSound) : history.fresh.IsSound where
  held token held := by
    obtain held | last := List.mem_append.mp held
    · exact Nat.lt_succ_of_lt (sound.held token held)
    · rw [List.mem_singleton.mp last]
      exact Nat.lt_succ_self _
  clonings pair cloned :=
    (sound.clonings pair cloned).imp Nat.lt_succ_of_lt Nat.lt_succ_of_lt
  cancelled token signalled := Nat.lt_succ_of_lt (sound.cancelled token signalled)
  nodup := by
    refine List.nodup_append.mpr
      ⟨sound.nodup, List.nodup_singleton _, fun token held other last => ?_⟩
    rw [List.mem_singleton.mp last]
    exact Nat.ne_of_lt (sound.held token held)

/-- So is one that is made from another. -/
theorem IsSound.clone (sound : history.IsSound) (made : token < history.made) :
    (history.clone token).IsSound where
  held := sound.fresh.held
  clonings pair cloned := by
    obtain rfl | cloned := List.mem_cons.mp cloned
    · exact ⟨Nat.lt_succ_of_lt made, Nat.lt_succ_self _⟩
    · exact sound.fresh.clonings pair cloned
  cancelled := sound.fresh.cancelled
  nodup := sound.fresh.nodup

/-- Only a token that is held is cancelled. -/
theorem IsSound.cancel (sound : history.IsSound) (index : Nat) :
    (history.act (.cancel index)).IsSound where
  held := sound.held
  clonings := sound.clonings
  cancelled token signalled := by
    obtain now | before := List.mem_append.mp signalled
    · exact sound.held token (List.mem_of_getElem? (Option.mem_toList.mp now))
    · exact sound.cancelled token before
  nodup := sound.nodup

/-- A token that is let go was held. -/
theorem IsSound.drop (sound : history.IsSound) (index : Nat) :
    (history.act (.drop index)).IsSound where
  held token held := sound.held token (List.mem_of_mem_eraseIdx held)
  clonings := sound.clonings
  cancelled := sound.cancelled
  nodup := sound.nodup.sublist (List.eraseIdx_sublist _ _)

end TokenHistory

namespace CancelTokens

/-- The tokens after one more act. -/
def act (tokens : CancelTokens) : TokenAct → CancelTokens
  | .fresh => tokens.fresh
  | .clone index => tokens.clone index
  | .cancel index => tokens.cancel index
  | .drop index => tokens.drop index

/-- The tokens after these acts, from no tokens at all. -/
def after (acts : List TokenAct) : CancelTokens := acts.foldl act ⟨[], 0, []⟩

/-- The first token to be made is one of a family of its own. -/
example : after [.fresh] = one := rfl

/-- Each held token with whether it is cancelled. -/
def shown (acts : List TokenAct) : List (Nat × Bool) :=
  (TokenHistory.of acts).held.zip (after acts).states

/-! ## Families by their tokens -/

/-- Tokens agree with their history, where each token that was made has its family. -/
structure Tracks (tokens : CancelTokens) (history : TokenHistory) (family : Nat → Nat) : Prop where
  /-- The history is one of tokens that were made. -/
  sound : history.IsSound
  /-- The families of the held tokens are kept. -/
  held : tokens.held = history.held.map family
  /-- The families of the cancelled tokens are. -/
  cancelled : tokens.cancelled = history.cancelled.map family
  /-- There have been no other families. -/
  families : ∀ token < history.made, family token < tokens.families
  /-- A clone is of the family of its token. -/
  clonings : ∀ pair ∈ history.clonings, family pair.1 = family pair.2
  /-- The tokens of a family are kin. -/
  connected : ∀ first < history.made, ∀ second < history.made,
    family first = family second → history.IsKin first second

variable {tokens : CancelTokens} {history : TokenHistory} {family : Nat → Nat}
  {first second token : Nat}

/-- Kin are the tokens of one family. -/
theorem Tracks.isKin_iff (tracks : Tracks tokens history family) (one : first < history.made)
    (other : second < history.made) :
    history.IsKin first second ↔ family first = family second :=
  ⟨fun kin => kin.eq_of_clonings tracks.clonings, tracks.connected _ one _ other⟩

/-- A token shows that it is cancelled exactly if its family was. -/
theorem Tracks.contains_iff (tracks : Tracks tokens history family) (made : token < history.made) :
    tokens.cancelled.contains (family token) = true ↔ history.IsSignalled token := by
  rw [List.contains_iff_mem, tracks.cancelled, List.mem_map]
  refine exists_congr fun source => and_congr_right fun signalled => ?_
  exact (tracks.isKin_iff (tracks.sound.cancelled source signalled) made).symm

/-- The states are those of the held tokens, in order. -/
theorem Tracks.states_eq (tracks : Tracks tokens history family) :
    tokens.states = history.held.map fun token => tokens.cancelled.contains (family token) := by
  rw [states, tracks.held, List.map_map]
  rfl

/-- A token that was made keeps its family when the next one gets another. -/
theorem update_of_lt {made : Nat} (below : token < made) (number : Nat) :
    Function.update family made number token = family token :=
  Function.update_of_ne (Nat.ne_of_lt below) _ _

/-- So do all of them. -/
theorem map_update {made : Nat} {numbers : List Nat} (below : ∀ token ∈ numbers, token < made)
    (number : Nat) : numbers.map (Function.update family made number) = numbers.map family :=
  List.map_congr_left fun token listed => update_of_lt (below token listed) number

/-- A new token has a new family. -/
theorem Tracks.fresh (tracks : Tracks tokens history family) :
    Tracks tokens.fresh history.fresh (Function.update family history.made tokens.families) where
  sound := tracks.sound.fresh
  held := by
    simp [CancelTokens.fresh, TokenHistory.fresh, tracks.held, map_update tracks.sound.held]
  cancelled := tracks.cancelled.trans (map_update tracks.sound.cancelled _).symm
  families token made := by
    obtain before | rfl := Nat.lt_succ_iff_lt_or_eq.mp made
    · rw [update_of_lt before]
      exact Nat.lt_succ_of_lt (tracks.families token before)
    · rw [Function.update_self]
      exact Nat.lt_succ_self _
  clonings pair cloned := by
    rw [update_of_lt (tracks.sound.clonings pair cloned).1,
      update_of_lt (tracks.sound.clonings pair cloned).2]
    exact tracks.clonings pair cloned
  connected first made second alsoMade same := by
    -- No token that was made before has the new family.
    have apart : ∀ token < history.made, family token ≠ tokens.families :=
      fun token before => Nat.ne_of_lt (tracks.families token before)
    obtain before | rfl := Nat.lt_succ_iff_lt_or_eq.mp made <;>
      obtain alsoBefore | rfl := Nat.lt_succ_iff_lt_or_eq.mp alsoMade
    · rw [update_of_lt before, update_of_lt alsoBefore] at same
      exact tracks.connected first before second alsoBefore same
    · rw [update_of_lt before, Function.update_self] at same
      exact absurd same (apart first before)
    · rw [update_of_lt alsoBefore, Function.update_self] at same
      exact absurd same.symm (apart second alsoBefore)
    · exact .refl _

/-- A clone is of the family of its token. -/
theorem Tracks.clone (tracks : Tracks tokens history family) {index source : Nat}
    (found : history.held[index]? = some source) :
    Tracks (tokens.clone index) (history.clone source)
      (Function.update family history.made (family source)) := by
  have made : source < history.made := tracks.sound.held source (List.mem_of_getElem? found)
  -- Every token is kin to one that was made before and has its family.
  have origin (token : Nat) (now : token < history.made + 1) : ∃ before < history.made,
      Function.update family history.made (family source) token = family before ∧
        (history.clone source).IsKin token before := by
    obtain before | rfl := Nat.lt_succ_iff_lt_or_eq.mp now
    · exact ⟨token, before, update_of_lt before _, .refl _⟩
    · exact ⟨source, made, Function.update_self .., .symm _ _ (.rel _ _ List.mem_cons_self)⟩
  constructor
  case sound => exact tracks.sound.clone made
  case held =>
    simp [CancelTokens.clone, TokenHistory.clone, TokenHistory.fresh, tracks.held, found,
      map_update tracks.sound.held]
  case cancelled => exact tracks.cancelled.trans (map_update tracks.sound.cancelled _).symm
  case families =>
    intro token now
    obtain ⟨before, one, same, -⟩ := origin token now
    rw [same]
    exact tracks.families before one
  case clonings =>
    intro pair cloned
    obtain rfl | cloned := List.mem_cons.mp cloned
    · rw [update_of_lt made, Function.update_self]
    · rw [update_of_lt (tracks.sound.clonings pair cloned).1,
        update_of_lt (tracks.sound.clonings pair cloned).2]
      exact tracks.clonings pair cloned
  case connected =>
    intro first one second other same
    obtain ⟨before, made, inFamily, kin⟩ := origin first one
    obtain ⟨alsoBefore, alsoMade, alsoInFamily, alsoKin⟩ := origin second other
    have among := tracks.connected before made alsoBefore alsoMade
      (inFamily.symm.trans (same.trans alsoInFamily))
    exact .trans _ _ _ kin
      (.trans _ _ _ (among.mono (List.subset_cons_self _ _)) (.symm _ _ alsoKin))

/-- Tokens go on agreeing with their history, and the tokens that were made keep their families. -/
theorem Tracks.act (tracks : Tracks tokens history family) (act : TokenAct) :
    ∃ now, Tracks (tokens.act act) (history.act act) now ∧
      ∀ token < history.made, now token = family token := by
  cases act with
  | fresh => exact ⟨_, tracks.fresh, fun token made => update_of_lt made _⟩
  | clone index =>
    cases found : history.held[index]? with
    | none =>
      have same : tokens.clone index = tokens := by
        rw [CancelTokens.clone, tracks.held, List.getElem?_map, found]
        simp [← tracks.held]
      simp only [CancelTokens.act, TokenHistory.act, found, same]
      exact ⟨family, tracks, fun _ _ => rfl⟩
    | some source =>
      simp only [CancelTokens.act, TokenHistory.act, found]
      exact ⟨_, tracks.clone found, fun token made => update_of_lt made _⟩
  | cancel index =>
    refine ⟨family, ⟨tracks.sound.cancel index, tracks.held, ?_, tracks.families, tracks.clonings,
      tracks.connected⟩, fun _ _ => rfl⟩
    simp [CancelTokens.act, CancelTokens.cancel, TokenHistory.act, tracks.held, tracks.cancelled,
      Option.toList_map]
  | drop index =>
    refine ⟨family, ⟨tracks.sound.drop index, ?_, tracks.cancelled, tracks.families,
      tracks.clonings, tracks.connected⟩, fun _ _ => rfl⟩
    simp [CancelTokens.act, CancelTokens.drop, TokenHistory.act, tracks.held, List.eraseIdx_map]

/-- So they do over any acts. -/
theorem Tracks.foldl (tracks : Tracks tokens history family) (acts : List TokenAct) :
    ∃ now, Tracks (acts.foldl CancelTokens.act tokens) (acts.foldl TokenHistory.act history) now ∧
      ∀ token < history.made, now token = family token := by
  induction acts generalizing tokens history family with
  | nil => exact ⟨family, tracks, fun _ _ => rfl⟩
  | cons first rest ih =>
    obtain ⟨now, step, kept⟩ := tracks.act first
    obtain ⟨last, steps, keptOn⟩ := ih step
    refine ⟨last, steps, fun token made => ?_⟩
    have still := Nat.lt_of_lt_of_le made (history.grows_act first).made
    exact (keptOn token still).trans (kept token made)

/-- The tokens after any acts agree with their history. -/
theorem exists_tracks (acts : List TokenAct) :
    ∃ family, Tracks (after acts) (TokenHistory.of acts) family := by
  have start : Tracks ⟨[], 0, []⟩ ⟨[], 0, [], []⟩ id :=
    ⟨⟨by simp, by simp, by simp, .nil⟩, rfl, rfl, by simp, by simp, by simp⟩
  obtain ⟨family, tracks, -⟩ := start.foldl acts
  exact ⟨family, tracks⟩

/-- Waiting for a held token ends at once exactly if it is cancelled: its family has a token that is
held, so that its signal is open. -/
theorem resolved_eq_states (tokens : CancelTokens) : tokens.resolved = tokens.states := by
  refine List.map_congr_left fun family held => ?_
  have isOpen : tokens.isClosed family = false := by simpa [isClosed] using held
  rw [isOpen, Bool.or_false]

/-- What is shown of the held tokens. -/
theorem mem_shown_iff (acts : List TokenAct) (token : Nat) (cancelled : Bool) :
    (token, cancelled) ∈ shown acts ↔ token ∈ (TokenHistory.of acts).held ∧
      (cancelled = true ↔ (TokenHistory.of acts).IsSignalled token) := by
  obtain ⟨family, tracks⟩ := exists_tracks acts
  rw [shown, tracks.states_eq, ← List.map_prod_left_eq_zip, List.mem_map]
  constructor
  · rintro ⟨_, held, same⟩
    obtain ⟨rfl, rfl⟩ := Prod.mk.injEq .. ▸ same
    exact ⟨held, tracks.contains_iff (tracks.sound.held _ held)⟩
  · rintro ⟨held, signalled⟩
    refine ⟨token, held, Prod.ext rfl ?_⟩
    rw [Bool.eq_iff_iff, tracks.contains_iff (tracks.sound.held _ held), signalled]

/-! ## The shared signal -/

/-- Cancel tokens share a signal with their families. -/
structure SharesSignal (acts : List TokenAct) : Prop where
  /-- The tokens that are held are different ones, and each shows whether it is cancelled. -/
  held : ((shown acts).map Prod.fst = (TokenHistory.of acts).held) ∧
    (TokenHistory.of acts).held.Nodup
  /-- It is exactly if a token of its family was ever cancelled. -/
  states : ∀ token cancelled, (token, cancelled) ∈ shown acts →
    (cancelled = true ↔ (TokenHistory.of acts).IsSignalled token)
  /-- Waiting for a token ends at once exactly if the token is cancelled. -/
  resolved : (after acts).resolved = (after acts).states
  /-- A token that is cancelled stays so, whatever is done next. -/
  lasting : ∀ later token cancelled, (token, true) ∈ shown acts →
    (token, cancelled) ∈ shown (acts ++ later) → cancelled = true
  /-- Cancelling a token changes nothing for the tokens of other families. -/
  apart : ∀ index source token cancelled, (TokenHistory.of acts).held[index]? = some source →
    ¬ (TokenHistory.of acts).IsKin source token →
    ((token, cancelled) ∈ shown (acts ++ [.cancel index]) ↔ (token, cancelled) ∈ shown acts)
  /-- Families neither join nor part, whatever is done next. -/
  families : ∀ later, ∀ first < (TokenHistory.of acts).made,
    ∀ second < (TokenHistory.of acts).made,
    ((TokenHistory.of (acts ++ later)).IsKin first second ↔
      (TokenHistory.of acts).IsKin first second)

/-- Whatever is done to cancel tokens, the tokens of a family share a signal, which no other family
notices. -/
theorem families_share_signal (acts : List TokenAct) : SharesSignal acts := by
  obtain ⟨family, tracks⟩ := exists_tracks acts
  have of_append (later) :
      TokenHistory.of (acts ++ later) = later.foldl TokenHistory.act (TokenHistory.of acts) :=
    List.foldl_append
  refine ⟨⟨?_, tracks.sound.nodup⟩, fun token cancelled => ?_, resolved_eq_states _,
    fun later token cancelled before now => ?_, fun index source token cancelled found other => ?_,
    fun later first one second alsoOne => ?_⟩
  · rw [shown, tracks.states_eq]
    exact List.map_fst_zip (by simp)
  · exact fun listed => ((mem_shown_iff acts token cancelled).mp listed).2
  · have signalled := ((mem_shown_iff acts token true).mp before).2.mp rfl
    refine ((mem_shown_iff _ token cancelled).mp now).2.mpr (signalled.mono ?_)
    rw [of_append]
    exact TokenHistory.grows_foldl _ _
  · rw [mem_shown_iff, mem_shown_iff, of_append, List.foldl_cons, List.foldl_nil,
      TokenHistory.isSignalled_cancel_iff found, or_iff_right other]
    rfl
  · obtain ⟨now, steps, kept⟩ := tracks.foldl later
    have made := (TokenHistory.grows_foldl (TokenHistory.of acts) later).made
    rw [of_append, steps.isKin_iff (Nat.lt_of_lt_of_le one made)
      (Nat.lt_of_lt_of_le alsoOne made), kept first one, kept second alsoOne,
      tracks.isKin_iff one alsoOne]

end CancelTokens

end Pipewright
