import Pipewright.Proofs.Deployment.Calls

/-!
# What a history shows

The entries that a session has made, the stage that it entered last, the runs that its looks have
shown and the run that its report names: each is read off the turns so far, and one more turn
changes it only by what that turn itself shows.
-/
namespace Pipewright

/-- What the last of some things gives, of those that give anything. -/
def lastOf {α β : Type} (view : α → Option β) (things : List α) : Option β :=
  (things.filterMap view).getLast?

section LastOf

variable {α β : Type} {view : α → Option β}

/-- Later things come first. -/
theorem lastOf_append (things later : List α) :
    lastOf view (things ++ later) = (lastOf view later).or (lastOf view things) := by
  rw [lastOf, List.filterMap_append, List.getLast?_append]
  rfl

/-- One more thing comes first if it gives anything. -/
@[simp]
theorem lastOf_append_one (things : List α) (thing : α) :
    lastOf view (things ++ [thing]) = (view thing).or (lastOf view things) := by
  rw [lastOf_append]
  cases given : view thing <;> simp [lastOf, given]

/-- Things that give nothing do not count. -/
theorem lastOf_append_of_none {things later : List α}
    (nothing : ∀ thing ∈ later, view thing = none) :
    lastOf view (things ++ later) = lastOf view things := by
  have none_later : later.filterMap view = [] := List.filterMap_eq_nil_iff.mpr nothing
  rw [lastOf_append, lastOf, none_later]
  rfl

end LastOf

/-! ## Entries -/

/-- The entry that a turn makes. -/
def entry? : SessionTurn → Option (Level × String)
  | ⟨.tell level message, _⟩ => some (level, message)
  | _ => none

/-- The entries of a history, in order. -/
def entriesOf (history : List SessionTurn) : List (Level × String) := history.filterMap entry?

/-- The turns that make entries. -/
def tells (entries : List (Level × String)) : List SessionTurn :=
  entries.map fun entry => ⟨.tell entry.1 entry.2, ()⟩

/-- The entries of turns after turns come after theirs. -/
@[simp]
theorem entriesOf_append (past later : List SessionTurn) :
    entriesOf (past ++ later) = entriesOf past ++ entriesOf later := List.filterMap_append

/-- The turns that make entries make them. -/
@[simp]
theorem entriesOf_tells (entries : List (Level × String)) :
    entriesOf (tells entries) = entries := by
  simp [entriesOf, tells, List.filterMap_map, Function.comp_def, entry?]

/-- What entries do not show is not shown by the turns that make them. -/
theorem filterMap_tells {α : Type} {view : SessionTurn → Option α}
    (untold : ∀ level message, view ⟨.tell level message, ()⟩ = none)
    (entries : List (Level × String)) : (tells entries).filterMap view = [] := by
  refine List.filterMap_eq_nil_iff.mpr fun turn member => ?_
  obtain ⟨entry, -, rfl⟩ := List.mem_map.mp member
  exact untold entry.1 entry.2

/-- The turns that make entries are notes. -/
theorem isNote_of_mem_tells {entries : List (Level × String)} {turn : SessionTurn}
    (member : turn ∈ tells entries) : Deployment.IsNote turn := by
  obtain ⟨entry, -, rfl⟩ := List.mem_map.mp member
  trivial

/-! ## Stages -/

/-- The stage that a turn enters, unless the session turns out to be cancelled. -/
def entered? : SessionTurn → Option Stage
  | ⟨.enter stage, cancelled⟩ => bif cancelled then none else some stage
  | _ => none

/-- The stage that was entered last. -/
def stageOf (history : List SessionTurn) : Option Stage := lastOf entered? history

/-- Turns that make entries enter no stage. -/
@[simp]
theorem stageOf_append_tells (past : List SessionTurn) (entries : List (Level × String)) :
    stageOf (past ++ tells entries) = stageOf past := by
  refine lastOf_append_of_none fun turn member => ?_
  obtain ⟨entry, -, rfl⟩ := List.mem_map.mp member
  rfl

/-- The stage that comes before a stage. -/
def Stage.previous : Stage → Option Stage
  | validatingCredentials => none
  | fetchingRepoMetadata => some validatingCredentials
  | resolvingCommitBase => some fetchingRepoMetadata
  | publishingWorkflow => some resolvingCommitBase
  | awaitingRegistration => some publishingWorkflow
  | triggeringRun => some awaitingRegistration
  | pollingRun => some triggeringRun
  | collectingResults => some pollingRun

/-- The stage that a call belongs to. -/
def Call.stage : Call → Stage
  | repository => .fetchingRepoMetadata
  | branch _ => .resolvingCommitBase
  | tree _ => .resolvingCommitBase
  | createBlob _ => .publishingWorkflow
  | createTree _ _ _ => .publishingWorkflow
  | createCommit _ _ _ => .publishingWorkflow
  | updateRef _ _ => .publishingWorkflow
  | workflows => .awaitingRegistration
  | dispatch _ _ => .triggeringRun
  | runs _ _ => .pollingRun
  | jobs _ => .collectingResults
  | jobLog _ => .collectingResults

/-- Whether a call goes on with what another call of its stage has begun: the tree after the branch,
and what a blob is needed for after the blob. -/
def Call.continues : Call → Bool
  | tree _ => true
  | createTree _ _ _ => true
  | createCommit _ _ _ => true
  | updateRef _ _ => true
  | _ => false

/-! ## Runs -/

/-- The runs that a turn lists. -/
def listed? : SessionTurn → Option (List WorkflowRun)
  | ⟨.call _ (.runs _ _), .ok runs⟩ => some runs
  | _ => none

/-- The runs that a turn lists, if there are any. -/
def shown? (turn : SessionTurn) : Option (List WorkflowRun) :=
  (listed? turn).filter fun runs => !runs.isEmpty

/-- The run that a turn follows, with its address. -/
def followed? : SessionTurn → Option (UInt64 × String)
  | ⟨.follow run url, _⟩ => some (run, url)
  | _ => none

/-- The lists of runs that have been answered, in order. -/
def listingsOf (history : List SessionTurn) : List (List WorkflowRun) := history.filterMap listed?

/-- The last list of runs. -/
def lastListed (history : List SessionTurn) : Option (List WorkflowRun) := lastOf listed? history

/-- The last list of runs that was not empty. -/
def lastShown (history : List SessionTurn) : Option (List WorkflowRun) := lastOf shown? history

/-- The first run of the last list that was not empty. -/
def latestSeen (history : List SessionTurn) : Option WorkflowRun :=
  (lastShown history).bind List.head?

/-- The run that a report names, with its address: the one that was followed last. -/
def runOf (history : List SessionTurn) : Option (UInt64 × String) := lastOf followed? history

/-- The lists of turns after turns come after theirs. -/
@[simp]
theorem listingsOf_append (past later : List SessionTurn) :
    listingsOf (past ++ later) = listingsOf past ++ listingsOf later := List.filterMap_append

/-- Turns that make entries list no runs. -/
@[simp]
theorem listingsOf_append_tells (past : List SessionTurn) (entries : List (Level × String)) :
    listingsOf (past ++ tells entries) = listingsOf past := by
  have unlisted : listingsOf (tells entries) = [] := filterMap_tells (fun _ _ => rfl) entries
  rw [listingsOf_append, unlisted, List.append_nil]

/-- The last list of runs that was not empty is found among the lists. -/
theorem lastShown_eq (history : List SessionTurn) :
    lastShown history = ((listingsOf history).filter fun runs => !runs.isEmpty).getLast? :=
  congrArg List.getLast? List.filter_filterMap.symm

/-- Where the same runs were listed, the same one was seen last. -/
theorem latestSeen_congr {history other : List SessionTurn}
    (same : listingsOf history = listingsOf other) : latestSeen history = latestSeen other := by
  rw [latestSeen, latestSeen, lastShown_eq, lastShown_eq, same]

/-- Turns that make entries show no run. -/
@[simp]
theorem latestSeen_append_tells (past : List SessionTurn) (entries : List (Level × String)) :
    latestSeen (past ++ tells entries) = latestSeen past :=
  latestSeen_congr (listingsOf_append_tells past entries)

/-- Turns that make entries follow no run. -/
@[simp]
theorem runOf_append_tells (past : List SessionTurn) (entries : List (Level × String)) :
    runOf (past ++ tells entries) = runOf past := by
  refine lastOf_append_of_none fun turn member => ?_
  obtain ⟨entry, -, rfl⟩ := List.mem_map.mp member
  rfl

/-- Where the same runs were listed, the last list is the same. -/
theorem lastListed_congr {history other : List SessionTurn}
    (same : listingsOf history = listingsOf other) : lastListed history = lastListed other :=
  congrArg List.getLast? same

/-- Where no list was answered, no run has been seen. -/
theorem latestSeen_eq_none {history : List SessionTurn} (unlisted : listingsOf history = []) :
    latestSeen history = none := by
  rw [latestSeen, lastShown_eq, unlisted]
  rfl

/-- A turn that lists no runs shows none. -/
theorem latestSeen_append_one {history : List SessionTurn} {turn : SessionTurn}
    (unlisted : listed? turn = none) : latestSeen (history ++ [turn]) = latestSeen history :=
  latestSeen_congr (by simp [listingsOf, unlisted])

/-- A turn that lists no runs is not the last that does. -/
theorem lastListed_append_one {history : List SessionTurn} {turn : SessionTurn}
    (unlisted : listed? turn = none) : lastListed (history ++ [turn]) = lastListed history :=
  lastListed_congr (by simp [listingsOf, unlisted])

/-- A turn that lists runs is the last that does. -/
theorem lastListed_append_runs {history : List SessionTurn} {credentials : Credentials}
    {id : UInt64} {branch : String} {runs : List WorkflowRun} :
    lastListed (history ++ [⟨.call credentials (.runs id branch), .ok runs⟩]) = some runs := by
  rw [lastListed, lastOf_append_one]
  rfl

/-- The first run of the last list, if that is not empty, has been seen last. -/
theorem latestSeen_of_lastListed {history : List SessionTurn} {run : WorkflowRun}
    {others : List WorkflowRun} (listed : lastListed history = some (run :: others)) :
    latestSeen history = some run := by
  obtain ⟨earlier, split⟩ := List.getLast?_eq_some_iff.mp listed
  have lists : listingsOf history = earlier ++ [run :: others] := split
  rw [latestSeen, lastShown_eq, lists, List.filter_append]
  simp

end Pipewright
