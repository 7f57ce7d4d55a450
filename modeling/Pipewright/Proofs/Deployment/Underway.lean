import Pipewright.Proofs.Deployment.History

/-!
# Sessions under way

A turn may be a fault: a stage or a pause that finds the session cancelled, a check that refuses
what was given, a call that fails, a list without the workflow. Until there is one a session is
under way (`Underway`), each call is made in its stage, and each that begins something right after
the session was found not to be cancelled (`IsPlaced`). Each kind of turn has one lemma here that
says how a session goes on with it, or that it has met a fault (`Halted`).
-/
namespace Pipewright

open Procedure Deployment
open Dialogue (Throughout throughout_nil)

/-! ## Faults -/

/-- The fault that the result of a call is. -/
def callFault? (s : Settings) : (c : Call) → c.Result → Option DeployFault
  | .updateRef branch _, .error fault => some (.ofRefUpdate branch fault)
  | .workflows, .ok workflows =>
    if (workflows.find? fun w => w.path == s.workflowPath).isNone then some .notRegistered else none
  | _, .error fault => some (.ofRemote fault)
  | _, .ok _ => none

/-- The fault of what a session is given. -/
def refusal? (token repo workflow : String) : Option DeployFault :=
  match Credentials.check token repo with
  | .error fault => some (.credentials fault)
  | .ok _ => if isBlank workflow then some .emptyWorkflow else none

/-- The fault that a turn is. -/
def faultOf? (s : Settings) (token repo workflow : String) : SessionTurn → Option DeployFault
  | ⟨.enter stage, cancelled⟩ =>
    bif cancelled then some .cancelled
    else if stage = .validatingCredentials then refusal? token repo workflow else none
  | ⟨.pause _, cancelled⟩ => bif cancelled then some .cancelled else none
  | ⟨.call _ c, result⟩ => callFault? s c result
  | _ => none

/-- A fault lists no runs. -/
theorem listed?_of_fault {s : Settings} {token repo workflow : String} {turn : SessionTurn}
    {fault : DeployFault} (faulty : faultOf? s token repo workflow turn = some fault) :
    listed? turn = none := by
  obtain ⟨act, found⟩ := turn
  cases act with
  | call credentials c =>
    cases c with
    | runs id branch =>
      cases found with
      | error remote => rfl
      | ok runs => cases faulty
    | _ => rfl
  | _ => rfl

/-- Whether a turn is neither a fault nor an entry that something failed. -/
structure IsCalm (s : Settings) (token repo workflow : String) (turn : SessionTurn) : Prop where
  /-- It is no fault. -/
  faultless : faultOf? s token repo workflow turn = none
  /-- It makes no entry that something failed. -/
  errorless : ∀ entry ∈ entry? turn, entry.1 ≠ .error

/-- A turn that is no fault and makes no entry is calm. -/
theorem isCalm_of_quiet {s : Settings} {token repo workflow : String} {turn : SessionTurn}
    (faultless : faultOf? s token repo workflow turn = none) (quiet : entry? turn = none) :
    IsCalm s token repo workflow turn where
  faultless := faultless
  errorless := by simp [quiet]

/-! ## Where turns may stand -/

/-- Whether a turn has found the session not to be cancelled. -/
def IsCheck : SessionTurn → Prop
  | ⟨.enter _, cancelled⟩ => cancelled = false
  | ⟨.pause _, cancelled⟩ => cancelled = false
  | _ => False

/-- Whether nothing but notes has come since the session was found not to be cancelled. -/
def IsFresh (now : List SessionTurn) : Prop :=
  ∃ before check, IsCheck check ∧ AddsNotes (before ++ [check]) now

/-- Whether a turn stands where it may: the stages are entered in order, the last one only after a
look that shows a completed run; no pause comes between the last look and what follows; and a call
is made in its stage, right after a check unless it goes on with what was begun. -/
def IsPlaced (s : Settings) (past : List SessionTurn) : SessionTurn → Prop
  | ⟨.enter next, _⟩ => stageOf past = next.previous ∧ (next = .collectingResults →
      ∃ run others, lastListed past = some (run :: others) ∧ run.status = "completed")
  | ⟨.pause _, _⟩ => stageOf past = some .pollingRun →
      (listingsOf past).length < s.maxPollAttempts ∨ s.maxPollAttempts = 0
  | ⟨.call _ c, _⟩ => stageOf past = some c.stage ∧ (c.continues = false → IsFresh past)
  | _ => True

/-- A stage but the last may be entered after the one before it. -/
theorem enter_placed {s : Settings} {past : List SessionTurn} {next : Stage}
    (after : stageOf past = next.previous) (early : next ≠ .collectingResults := by decide) :
    IsPlaced s past ⟨.enter next, false⟩ :=
  ⟨after, fun last => absurd last early⟩

/-- Entries stand anywhere. -/
theorem placed_append_tells {s : Settings} {now : List SessionTurn}
    (placed : Throughout (IsPlaced s) now) (entries : List (Level × String)) :
    Throughout (IsPlaced s) (now ++ tells entries) := by
  induction entries generalizing now with
  | nil => simpa [tells] using placed
  | cons entry entries ih =>
    have told : IsPlaced s now ⟨.tell entry.1 entry.2, ()⟩ := trivial
    simpa [tells] using ih (placed.append_one told)

/-- A session that goes on: nothing has gone wrong, and every turn is in its place. -/
structure Proceeding (s : Settings) (token repo workflow : String) (stage : Option Stage)
    (looks : Nat) (now : List SessionTurn) : Prop where
  /-- No turn is a fault or tells of a failure. -/
  calm : ∀ turn ∈ now, IsCalm s token repo workflow turn
  /-- Every turn is in its place. -/
  placed : Throughout (IsPlaced s) now
  /-- The stage that was entered last. -/
  stage_eq : stageOf now = stage
  /-- The number of looks at the run that were answered. -/
  looks_eq : (listingsOf now).length = looks

/-- A session under way: it goes on, and it follows the run that was seen last. -/
structure Underway (s : Settings) (token repo workflow : String) (stage : Option Stage)
    (looks : Nat) (now : List SessionTurn) : Prop
    extends Proceeding s token repo workflow stage looks now where
  /-- The run that is followed is the one seen last. -/
  tracked : (runOf now).map Prod.fst = (latestSeen now).map WorkflowRun.id

/-- A session that has just been found not to be cancelled. -/
structure Poised (s : Settings) (token repo workflow : String) (stage : Option Stage)
    (looks : Nat) (now : List SessionTurn) : Prop
    extends Underway s token repo workflow stage looks now where
  /-- Nothing but notes has come since then. -/
  fresh : IsFresh now

/-- Whether a session that was under way has just met a fault. -/
def Halted (s : Settings) (token repo workflow : String) (fault : DeployFault)
    (now : List SessionTurn) : Prop :=
  ∃ stage looks past turn, now = past ++ [turn] ∧ Underway s token repo workflow stage looks past ∧
    IsPlaced s past turn ∧ faultOf? s token repo workflow turn = some fault

section Steps

variable {s : Settings} {token repo workflow : String} {stage : Option Stage} {looks : Nat}
  {past : List SessionTurn}

/-- A session at its beginning is under way. -/
theorem underway_nil : Underway s token repo workflow none 0 [] where
  calm := by simp
  placed := throughout_nil
  stage_eq := rfl
  looks_eq := rfl
  tracked := rfl

/-- A session goes on with a calm turn in its place. -/
theorem Proceeding.append_one (proceeding : Proceeding s token repo workflow stage looks past)
    (turn : SessionTurn) (calm : IsCalm s token repo workflow turn)
    (placed : IsPlaced s past turn) :
    Proceeding s token repo workflow ((entered? turn).or stage)
      (looks + (listingsOf [turn]).length) (past ++ [turn]) where
  calm := by
    intro other member
    rcases List.mem_append.mp member with old | new
    · exact proceeding.calm other old
    · rwa [List.mem_singleton.mp new]
  placed := proceeding.placed.append_one placed
  stage_eq := by rw [stageOf, lastOf_append_one, ← proceeding.stage_eq, stageOf]
  looks_eq := by rw [listingsOf_append, List.length_append, proceeding.looks_eq]

/-- A session stays under way with a calm turn in its place that is not about runs. -/
theorem Underway.append_one (underway : Underway s token repo workflow stage looks past)
    (turn : SessionTurn) (calm : IsCalm s token repo workflow turn) (placed : IsPlaced s past turn)
    (unlisted : listed? turn = none) (unfollowed : followed? turn = none) :
    Underway s token repo workflow ((entered? turn).or stage) looks (past ++ [turn]) where
  toProceeding := by
    have further := underway.toProceeding.append_one turn calm placed
    simpa [listingsOf, unlisted] using further
  tracked := by
    rw [latestSeen_append_one unlisted, runOf, lastOf_append_one, unfollowed]
    exact underway.tracked

/-- A session stays under way with an entry, unless that tells of a failure. -/
theorem Underway.tell (underway : Underway s token repo workflow stage looks past) (level : Level)
    (message : String) (mild : level ≠ .error := by decide) :
    Underway s token repo workflow stage looks (past ++ [⟨.tell level message, ()⟩]) := by
  refine underway.append_one ⟨.tell level message, ()⟩ ⟨rfl, ?_⟩ trivial rfl rfl
  rintro entry ⟨⟩
  exact mild

/-- A session stays under way with a log that arrives, fails or is left out. -/
theorem Underway.download (underway : Underway s token repo workflow stage looks past)
    {credentials : Credentials} {job : UInt64} {log : Option (Call.jobLog job).Result} :
    Underway s token repo workflow stage looks (past ++ [⟨.download credentials job, log⟩]) :=
  underway.append_one ⟨.download credentials job, log⟩ (isCalm_of_quiet rfl rfl) trivial rfl rfl

/-- A session that enters a stage has just been checked. -/
theorem Underway.enter (underway : Underway s token repo workflow stage looks past) (next : Stage)
    (placed : IsPlaced s past ⟨.enter next, false⟩)
    (accepted : next = .validatingCredentials → refusal? token repo workflow = none := by simp) :
    Poised s token repo workflow (some next) looks (past ++ [⟨.enter next, false⟩]) where
  toUnderway := by
    have faultless : faultOf? s token repo workflow ⟨.enter next, false⟩ = none := by
      simp only [faultOf?, cond_false]
      split
      · next first => exact accepted first
      · rfl
    exact underway.append_one ⟨.enter next, false⟩ (isCalm_of_quiet faultless rfl) placed rfl rfl
  fresh := ⟨past, ⟨.enter next, false⟩, rfl, AddsNotes.refl⟩

/-- A session may pause, while it looks at the run only before a look that is allowed. -/
theorem Proceeding.pause_placed (proceeding : Proceeding s token repo workflow stage looks past)
    (milliseconds : Nat) (allowed : stage = some .pollingRun →
      looks < s.maxPollAttempts ∨ s.maxPollAttempts = 0) :
    IsPlaced s past ⟨.pause milliseconds, false⟩ := by
  intro polling
  rw [proceeding.looks_eq]
  exact allowed (proceeding.stage_eq.symm.trans polling)

/-- A session whose pause has ended has just been checked. -/
theorem Underway.pause (underway : Underway s token repo workflow stage looks past)
    (milliseconds : Nat) (placed : IsPlaced s past ⟨.pause milliseconds, false⟩) :
    Poised s token repo workflow stage looks (past ++ [⟨.pause milliseconds, false⟩]) where
  toUnderway := underway.append_one ⟨.pause milliseconds, false⟩ (isCalm_of_quiet rfl rfl) placed
    rfl rfl
  fresh := ⟨past, ⟨.pause milliseconds, false⟩, rfl, AddsNotes.refl⟩

/-- A session that has just been checked may make an entry first. -/
theorem Poised.tell (poised : Poised s token repo workflow stage looks past) (level : Level)
    (message : String) (mild : level ≠ .error := by decide) :
    Poised s token repo workflow stage looks (past ++ [⟨.tell level message, ()⟩]) where
  toUnderway := poised.toUnderway.tell level message mild
  fresh := by
    obtain ⟨before, check, isCheck, notes⟩ := poised.fresh
    exact ⟨before, check, isCheck, notes.trans addsNotes_tell⟩

/-- A session that is cancelled when it enters a stage has met a fault. -/
theorem Underway.cancelled_enter (underway : Underway s token repo workflow stage looks past)
    {next : Stage} (placed : IsPlaced s past ⟨.enter next, false⟩) :
    Halted s token repo workflow .cancelled (past ++ [⟨.enter next, true⟩]) :=
  ⟨_, _, past, _, rfl, underway, placed, rfl⟩

/-- A session that is cancelled during a pause has met a fault. -/
theorem Underway.cancelled_pause (underway : Underway s token repo workflow stage looks past)
    {milliseconds : Nat} (placed : IsPlaced s past ⟨.pause milliseconds, false⟩) :
    Halted s token repo workflow .cancelled (past ++ [⟨.pause milliseconds, true⟩]) :=
  ⟨_, _, past, _, rfl, underway, placed, rfl⟩

/-- A call in its place fails and is a fault, or the session stays under way with it. -/
theorem Underway.call (underway : Underway s token repo workflow stage looks past)
    (credentials : Credentials) (c : Call) {toFault : RemoteFault → DeployFault}
    (its : stage = some c.stage) (begun : c.continues = true ∨ IsFresh past)
    (fails : ∀ fault, callFault? s c (.error fault) = some (toFault fault))
    (goes : ∀ reply, callFault? s c (.ok reply) = none)
    (unlisted : ∀ reply, listed? ⟨.call credentials c, .ok reply⟩ = none) :
    (∀ fault, Halted s token repo workflow (toFault fault)
      (past ++ [⟨.call credentials c, .error fault⟩])) ∧
    ∀ reply, Underway s token repo workflow stage looks
      (past ++ [⟨.call credentials c, .ok reply⟩]) := by
  have placed : ∀ result, IsPlaced s past ⟨.call credentials c, result⟩ :=
    fun _ => ⟨underway.stage_eq.trans its, fun begins => begun.resolve_left (by simp [begins])⟩
  refine ⟨fun fault => ⟨_, _, past, _, rfl, underway, placed _, fails fault⟩, fun reply => ?_⟩
  exact underway.append_one ⟨.call credentials c, .ok reply⟩ (isCalm_of_quiet (goes reply) rfl)
    (placed _) (unlisted reply) rfl

/-- A session goes on with entries, unless they tell of a failure. -/
theorem Proceeding.append_tells (proceeding : Proceeding s token repo workflow stage looks past)
    {entries : List (Level × String)} (mild : ∀ entry ∈ entries, entry.1 ≠ .error) :
    Proceeding s token repo workflow stage looks (past ++ tells entries) := by
  induction entries generalizing past with
  | nil => simpa [tells] using proceeding
  | cons entry entries ih =>
    have calm : IsCalm s token repo workflow ⟨.tell entry.1 entry.2, ()⟩ := by
      refine ⟨rfl, ?_⟩
      rintro _ ⟨⟩
      exact mild entry List.mem_cons_self
    have further := ih (proceeding.append_one _ calm trivial)
      fun other member => mild other (List.mem_cons_of_mem _ member)
    simpa [tells] using further

/-- A look that shows no run is one look more. -/
theorem Poised.unseen (poised : Poised s token repo workflow (some .pollingRun) looks past)
    (credentials : Credentials) (id : UInt64) (branch : String) :
    Underway s token repo workflow (some .pollingRun) (looks + 1)
        (past ++ [⟨.call credentials (.runs id branch), .ok []⟩]) ∧
      latestSeen (past ++ [⟨.call credentials (.runs id branch), .ok []⟩]) = latestSeen past := by
  have placed : IsPlaced s past ⟨.call credentials (.runs id branch), .ok []⟩ :=
    ⟨poised.stage_eq, fun _ => poised.fresh⟩
  have same : latestSeen (past ++ [⟨.call credentials (.runs id branch), .ok []⟩]) =
      latestSeen past := by
    rw [latestSeen, lastShown, lastOf_append_one]
    rfl
  refine ⟨⟨poised.toProceeding.append_one ⟨.call credentials (.runs id branch), .ok []⟩
    (isCalm_of_quiet rfl rfl) placed, ?_⟩, same⟩
  rw [same, ← poised.tracked]
  simp [runOf, followed?]

/-- A look that shows a run which is then followed, with what is told of it, is one look more. -/
theorem Poised.seen (poised : Poised s token repo workflow (some .pollingRun) looks past)
    (credentials : Credentials) (id : UInt64) (branch : String) (run : WorkflowRun)
    (others : List WorkflowRun) {entries : List (Level × String)}
    (mild : ∀ entry ∈ entries, entry.1 ≠ .error) (url : String) :
    Underway s token repo workflow (some .pollingRun) (looks + 1)
        (past ++ [⟨.call credentials (.runs id branch), .ok (run :: others)⟩] ++ tells entries ++
          [⟨.follow run.id url, ()⟩]) ∧
      lastListed (past ++ [⟨.call credentials (.runs id branch), .ok (run :: others)⟩] ++
        tells entries ++ [⟨.follow run.id url, ()⟩]) = some (run :: others) := by
  have placed : IsPlaced s past ⟨.call credentials (.runs id branch), .ok (run :: others)⟩ :=
    ⟨poised.stage_eq, fun _ => poised.fresh⟩
  have untold : ∀ turn ∈ tells entries, listed? turn = none := by
    intro turn member
    obtain ⟨entry, -, rfl⟩ := List.mem_map.mp member
    rfl
  have listed : lastListed (past ++ [⟨.call credentials (.runs id branch), .ok (run :: others)⟩] ++
      tells entries ++ [⟨.follow run.id url, ()⟩]) = some (run :: others) := by
    rw [lastListed, lastOf_append_one, lastOf_append_of_none untold, lastOf_append_one]
    rfl
  have looked := poised.toProceeding.append_one
    ⟨.call credentials (.runs id branch), .ok (run :: others)⟩ (isCalm_of_quiet rfl rfl) placed
  refine ⟨⟨(looked.append_tells mild).append_one ⟨.follow run.id url, ()⟩
    (isCalm_of_quiet rfl rfl) trivial, ?_⟩, listed⟩
  rw [latestSeen_of_lastListed listed, runOf, lastOf_append_one]
  rfl

end Steps

end Pipewright
