import Mathlib.Data.List.Nodup
import Pipewright.Lint.Basic
import Pipewright.Proofs.Lint.Search

/-!
# Well-formed pipelines

A pipeline without issues is one whose jobs and steps have names, no two jobs the same one, and
whose jobs can be put in an order in which each comes after those it needs. The order comes from
the ranks of a search that settled all names; and where there is an order, places in it are ranks
that rule a cycle out. Names that are defined twice, needed though nobody has them or needed by
their own job keep a pipeline from being well formed by themselves, so the search is looked at for
the other pipelines only (`findCycle_eq_none_iff`).
-/
namespace Pipewright

namespace Lint

variable {jobs : List Job} {name next : String}

/-! ## The graph of some jobs -/

/-- The first definition of a name is the one that is looked up. -/
theorem lookup_cons_eq {other : String} {needs : List String} {edges : Edges} :
    List.lookup name ((other, needs) :: edges) =
      if name = other then some needs else edges.lookup name := by
  rw [List.lookup_cons]
  cases same : name == other with
  | true => rw [if_pos (eq_of_beq same)]
  | false => rw [if_neg (ne_of_beq_false same)]

/-- A name that is defined anew has the new definition, and other names keep theirs. -/
theorem lookup_define {needs : List String} {edges : Edges} :
    (define name needs edges).lookup next =
      if next = name then some needs else edges.lookup next := by
  induction edges with
  | nil => exact lookup_cons_eq
  | cons edge edges ih =>
    obtain ⟨other, old⟩ := edge
    by_cases replaced : other = name
    · rw [define, if_pos replaced, replaced, lookup_cons_eq, lookup_cons_eq]
      by_cases same : next = name <;> simp [same]
    · rw [define, if_neg replaced, lookup_cons_eq, lookup_cons_eq, ih]
      by_cases same : next = name
      · have apart : ¬next = other := fun isOther => replaced (isOther ▸ same)
        rw [if_neg apart, if_pos same, if_pos same]
      · rw [if_neg same, if_neg same]

/-- The last job of a name. -/
def lastJob (jobs : List Job) (name : String) : Option Job :=
  jobs.reverse.find? fun j => j.name == name

/-- The definition of a name that counts is that of the last job with this name. -/
theorem lookup_edgesOf : (edgesOf jobs).lookup name = (lastJob jobs name).map otherNeeds := by
  -- Definitions that are there already count only for names that no job has.
  have folded : ∀ edges : Edges,
      (jobs.foldl (fun edges j => define j.name (otherNeeds j) edges) edges).lookup name =
        ((lastJob jobs name).map otherNeeds).or (edges.lookup name) := by
    induction jobs with
    | nil => exact fun edges => rfl
    | cons j jobs ih =>
      intro edges
      rw [List.foldl_cons, ih, lookup_define, lastJob, lastJob, List.reverse_cons,
        List.find?_append]
      cases jobs.reverse.find? fun j => j.name == name with
      | some last => rfl
      | none =>
        by_cases same : name = j.name
        · simp [same]
        · simp [same, Ne.symm same]
  rw [edgesOf, folded]
  simp

/-- The last job of a name is a job with this name. -/
theorem lastJob_eq_some {j : Job} (found : lastJob jobs name = some j) :
    j ∈ jobs ∧ j.name = name :=
  ⟨List.mem_reverse.mp (List.mem_of_find?_eq_some found), by simpa using List.find?_some found⟩

/-- The defined names are those of the jobs. -/
theorem isDefined_iff : IsDefined (edgesOf jobs) name ↔ name ∈ jobs.map Job.name := by
  constructor
  · rintro ⟨needs, found⟩
    rw [lookup_edgesOf, Option.map_eq_some_iff] at found
    obtain ⟨j, last, -⟩ := found
    obtain ⟨member, same⟩ := lastJob_eq_some last
    exact List.mem_map.mpr ⟨j, member, same⟩
  · intro member
    obtain ⟨j, member, same⟩ := List.mem_map.mp member
    have isSome : (lastJob jobs name).isSome :=
      List.find?_isSome.mpr ⟨j, List.mem_reverse.mpr member, by simpa using same⟩
    obtain ⟨last, found⟩ := Option.isSome_iff_exists.mp isSome
    exact ⟨otherNeeds last, by rw [lookup_edgesOf, found, Option.map_some]⟩

/-- A name leads to what a job with this name needs. -/
theorem Leads.exists_job (leads : Leads (edgesOf jobs) name next) :
    ∃ j ∈ jobs, j.name = name ∧ next ∈ j.needs ∧ next ≠ name := by
  obtain ⟨needs, found, member⟩ := leads
  rw [lookup_edgesOf, Option.map_eq_some_iff] at found
  obtain ⟨j, last, rfl⟩ := found
  obtain ⟨isJob, same⟩ := lastJob_eq_some last
  obtain ⟨needed, other⟩ := List.mem_filter.mp member
  exact ⟨j, isJob, same, needed, by simpa [same] using other⟩

/-- Where no two jobs have the same name, a job's name leads to the other names that it needs. -/
theorem leads_of_needs (distinct : (jobs.map Job.name).Nodup) {j : Job} (member : j ∈ jobs)
    (needed : next ∈ j.needs) (other : next ≠ j.name) : Leads (edgesOf jobs) j.name next := by
  obtain ⟨needs, found⟩ := isDefined_iff.mpr (List.mem_map_of_mem (f := Job.name) member)
  refine ⟨needs, found, ?_⟩
  rw [lookup_edgesOf, Option.map_eq_some_iff] at found
  obtain ⟨last, isLast, rfl⟩ := found
  obtain ⟨isJob, same⟩ := lastJob_eq_some isLast
  have unique : last = j := List.inj_on_of_nodup_map distinct isJob member same
  rw [unique]
  exact List.mem_filter.mpr ⟨needed, by simpa using other⟩

/-! ## Orders -/

/-- Whether some jobs can be put in an order in which each of them comes after all those that it
needs. -/
def HasOrder (jobs : List Job) : Prop :=
  ∃ order : List Job, order.Perm jobs ∧
    ∀ before j after, order = before ++ j :: after → ∀ need ∈ j.needs, need ∈ before.map Job.name

/-- Jobs can be put in order by ranks that are lower for what a job needs. -/
theorem hasOrder_of_rank (rank : String → Nat)
    (lower : ∀ j ∈ jobs, ∀ need ∈ j.needs, need ∈ jobs.map Job.name ∧ rank need < rank j.name) :
    HasOrder jobs := by
  have perm := List.mergeSort_perm jobs fun i j : Job => rank i.name ≤ rank j.name
  have sorted : (jobs.mergeSort fun i j : Job => rank i.name ≤ rank j.name).Pairwise
      fun i j => decide (rank i.name ≤ rank j.name) = true :=
    List.pairwise_mergeSort (by simpa using fun _ _ _ => Nat.le_trans)
      (by simpa using fun _ _ => Nat.le_total _ _) jobs
  refine ⟨_, perm, fun before j after split need needed => ?_⟩
  rw [split] at sorted perm
  obtain ⟨known, low⟩ := lower j (perm.subset (by simp)) need needed
  obtain ⟨k, isJob, rfl⟩ := List.mem_map.mp known
  -- The needed job is before this one, since from this one on the ranks are no lower.
  have after_le : ∀ k ∈ after, rank j.name ≤ rank k.name := by
    have tail := (List.pairwise_append.mp sorted).2.1
    simpa using (List.pairwise_cons.mp tail).1
  rcases List.mem_append.mp (perm.symm.subset isJob) with early | late
  · exact List.mem_map_of_mem early
  · rcases List.mem_cons.mp late with rfl | later
    · omega
    · have high := after_le k later
      omega

/-- In an order, places are ranks that are lower for what a job needs. -/
theorem exists_rank_of_hasOrder (distinct : (jobs.map Job.name).Nodup) (ordered : HasOrder jobs) :
    ∃ rank : String → Nat, ∀ j ∈ jobs, ∀ need ∈ j.needs, rank need < rank j.name := by
  obtain ⟨order, perm, after_needs⟩ := ordered
  refine ⟨fun name => (order.map Job.name).idxOf name, fun j member need needed => ?_⟩
  obtain ⟨before, after, split⟩ := List.append_of_mem (perm.symm.subset member)
  have early := after_needs before j after split need needed
  have nodup : (order.map Job.name).Nodup := (perm.map Job.name).nodup_iff.mpr distinct
  rw [split, List.map_append, List.map_cons] at nodup
  have first : j.name ∉ before.map Job.name := fun again =>
    (List.nodup_append.mp nodup).2.2 _ again _ List.mem_cons_self rfl
  have low := List.idxOf_lt_length_of_mem early
  simp only [split, List.map_append, List.map_cons, List.idxOf_append, if_pos early, if_neg first]
  omega

/-! ## Searching the graph of some jobs -/

/-- A search that finds no cycle has settled the names of all jobs. -/
theorem findCycle_eq_none (unfound : findCycle jobs = none) :
    ∃ finished, Settles (edgesOf jobs) [] (jobs.map Job.name) finished := by
  unfold findCycle at unfound
  cases found : visitEach (visit (edgesOf jobs) ((edgesOf jobs).length + 1) []) []
      (jobs.map Job.name) with
  | error cycle => simp [found] at unfound
  | ok finished =>
    refine ⟨finished, visitEach_settles (fun before name after settled visited => ?_) trivial found⟩
    exact visit_settles List.nodup_nil (by simp) (by simp) settled visited

/-- A search finds nothing but cycles. -/
theorem findCycle_eq_some {cycle : List String} (found : findCycle jobs = some cycle) :
    IsCycle (edgesOf jobs) cycle := by
  unfold findCycle at found
  cases visited : visitEach (visit (edgesOf jobs) ((edgesOf jobs).length + 1) []) []
      (jobs.map Job.name) with
  | ok finished => simp [visited] at found
  | error other =>
    simp only [visited, Option.some.injEq] at found
    obtain ⟨before, name, -, error⟩ := visitEach_error visited
    exact found ▸ visit_isCycle List.nodup_nil (List.isChain_singleton name) error

/-- Where no two jobs have the same name and each needs names of other jobs only, no cycle is found
just when the jobs can be put in order. -/
theorem findCycle_eq_none_iff (distinct : (jobs.map Job.name).Nodup)
    (known : ∀ j ∈ jobs, ∀ need ∈ j.needs, need ≠ j.name ∧ need ∈ jobs.map Job.name) :
    findCycle jobs = none ↔ HasOrder jobs := by
  constructor
  · intro unfound
    obtain ⟨finished, settles⟩ := findCycle_eq_none unfound
    refine hasOrder_of_rank (rankIn finished) fun j member need needed => ?_
    obtain ⟨other, defined⟩ := known j member need needed
    have isName : j.name ∈ jobs.map Job.name := List.mem_map_of_mem member
    have reached := settles.reached j.name isName (isDefined_iff.mpr isName)
    have leads := leads_of_needs distinct member needed other
    exact ⟨defined, settles.settled.rankIn_lt reached leads (isDefined_iff.mpr defined)⟩
  · intro ordered
    obtain ⟨rank, lower⟩ := exists_rank_of_hasOrder distinct ordered
    cases found : findCycle jobs with
    | none => rfl
    | some cycle =>
      refine ((findCycle_eq_some found).not_ranked rank fun name next leads => ?_).elim
      obtain ⟨j, member, rfl, needed, -⟩ := leads.exists_job
      exact lower j member next needed

/-! ## Issues -/

/-- There is no issue with the names of steps when none of them is blank. -/
theorem stepNameIssues_eq_nil_iff {job : String} {position : Nat} {steps : List Step} :
    stepNameIssues job position steps = [] ↔ ∀ s ∈ steps, isBlank s.name = false := by
  induction steps generalizing position with
  | nil => simp [stepNameIssues]
  | cons s steps ih =>
    rw [stepNameIssues, List.append_eq_nil_iff, ih, List.forall_mem_cons]
    cases isBlank s.name <;> simp

/-- There is no issue with a job's name when it is not blank and no earlier job has it. -/
theorem jobNameIssue_eq_nil_iff {seen : List String} {position : Nat} :
    jobNameIssue seen position name = [] ↔ isBlank name = false ∧ name ∉ seen := by
  unfold jobNameIssue
  cases isBlank name with
  | true => simp
  | false => by_cases again : name ∈ seen <;> simp [again]

/-- There is no issue with names when those of jobs and steps are not blank and those of jobs are
not repeated. -/
theorem nameIssues_eq_nil_iff {seen : List String} {position : Nat} :
    nameIssues seen position jobs = [] ↔
      (∀ j ∈ jobs, isBlank j.name = false) ∧ (jobs.map Job.name).Nodup ∧
        (∀ j ∈ jobs, j.name ∉ seen) ∧ ∀ j ∈ jobs, ∀ s ∈ j.steps, isBlank s.name = false := by
  induction jobs generalizing seen position with
  | nil => simp [nameIssues]
  | cons j jobs ih =>
    rw [nameIssues, List.append_eq_nil_iff, List.append_eq_nil_iff, jobNameIssue_eq_nil_iff,
      stepNameIssues_eq_nil_iff, ih, List.map_cons, List.nodup_cons]
    simp only [List.forall_mem_cons]
    simp only [List.mem_cons, not_or, List.mem_map, not_exists, not_and]
    constructor
    · rintro ⟨⟨⟨named, fresh⟩, steps⟩, allNamed, distinct, later, allSteps⟩
      exact ⟨⟨named, allNamed⟩, ⟨fun k member => (later k member).1, distinct⟩,
        ⟨fresh, fun k member => (later k member).2⟩, steps, allSteps⟩
    · rintro ⟨⟨named, allNamed⟩, ⟨apart, distinct⟩, ⟨fresh, later⟩, steps, allSteps⟩
      exact ⟨⟨⟨named, fresh⟩, steps⟩, allNamed, distinct,
        fun k member => ⟨apart k member, later k member⟩, allSteps⟩

/-- There is no issue with what jobs need when each needs defined names other than its own. -/
theorem needIssues_eq_nil_iff {defined : List String} :
    needIssues defined jobs = [] ↔
      ∀ j ∈ jobs, ∀ need ∈ j.needs, need ≠ j.name ∧ need ∈ defined := by
  have one : ∀ job need, needIssue defined job need = [] ↔ need ≠ job ∧ need ∈ defined := by
    intro job need
    unfold needIssue
    by_cases self : need = job
    · simp [self]
    · by_cases known : need ∈ defined <;> simp [self, known]
  simp only [needIssues, List.flatMap_eq_nil_iff, one]

/-- When no job's name is blank, a need may refer to any of them. -/
theorem definedNames_eq (named : ∀ j ∈ jobs, isBlank j.name = false) :
    definedNames jobs = jobs.map Job.name := by
  refine List.filter_eq_self.mpr fun name member => ?_
  obtain ⟨j, isJob, rfl⟩ := List.mem_map.mp member
  rw [named j isJob]
  rfl

/-- Where no two jobs have the same name, a job needs a name that another job has just when it is
that of a job and not its own. -/
theorem needs_others_iff (distinct : (jobs.map Job.name).Nodup) :
    (∀ before j after, jobs = before ++ j :: after → ∀ need ∈ j.needs,
      need ∈ (before ++ after).map Job.name) ↔
    ∀ j ∈ jobs, ∀ need ∈ j.needs, need ≠ j.name ∧ need ∈ jobs.map Job.name := by
  have split_iff : ∀ before j after need, jobs = before ++ j :: after →
      (need ∈ (before ++ after).map Job.name ↔ need ≠ j.name ∧ need ∈ jobs.map Job.name) := by
    rintro before j after need rfl
    have apart : j.name ∉ (before ++ after).map Job.name := by
      have front : (before ++ j :: after).Perm (j :: (before ++ after)) := List.perm_middle
      exact (List.nodup_cons.mp ((front.map Job.name).nodup_iff.mp distinct)).1
    constructor
    · intro other
      refine ⟨fun same => apart (same ▸ other), ?_⟩
      have within : (before ++ after).map Job.name ⊆ (before ++ j :: after).map Job.name := by
        simp
      exact within other
    · rintro ⟨other, member⟩
      simpa [other] using member
  constructor
  · intro others j member need needed
    obtain ⟨before, after, split⟩ := List.append_of_mem member
    exact (split_iff before j after need split).mp (others before j after split need needed)
  · intro known before j after split need needed
    exact (split_iff before j after need split).mpr (known j (split ▸ by simp) need needed)

end Lint

/-- Whether a pipeline can be deployed as it is. -/
structure Pipeline.IsWellFormed (p : Pipeline) : Prop where
  /-- No job's name is blank. -/
  named : ∀ j ∈ p.jobs, isBlank j.name = false
  /-- No two jobs have the same name. -/
  distinct : (p.jobs.map Job.name).Nodup
  /-- No step's name is blank. -/
  stepsNamed : ∀ j ∈ p.jobs, ∀ s ∈ j.steps, isBlank s.name = false
  /-- What a job needs are names of other jobs. -/
  needsOthers : ∀ before j after, p.jobs = before ++ j :: after → ∀ need ∈ j.needs,
    need ∈ (before ++ after).map Job.name
  /-- The jobs can be put in an order in which each comes after those it needs. -/
  ordered : Lint.HasOrder p.jobs

open Lint in
/-- A pipeline has no issues just when it is well formed. -/
theorem Pipeline.issues_eq_nil_iff (p : Pipeline) : p.issues = [] ↔ p.IsWellFormed := by
  have cycles : cycleIssues p.jobs = [] ↔ findCycle p.jobs = none := by
    simp [cycleIssues]
  rw [Pipeline.issues, List.append_eq_nil_iff, List.append_eq_nil_iff, nameIssues_eq_nil_iff,
    needIssues_eq_nil_iff, cycles]
  constructor
  · rintro ⟨⟨⟨named, distinct, -, stepsNamed⟩, known⟩, unfound⟩
    rw [definedNames_eq named] at known
    exact ⟨named, distinct, stepsNamed, (needs_others_iff distinct).mpr known,
      (findCycle_eq_none_iff distinct known).mp unfound⟩
  · intro formed
    have known := (needs_others_iff formed.distinct).mp formed.needsOthers
    rw [definedNames_eq formed.named]
    exact ⟨⟨⟨formed.named, formed.distinct, by simp, formed.stepsNamed⟩, known⟩,
      (findCycle_eq_none_iff formed.distinct known).mpr formed.ordered⟩

/-- Two jobs that need each other have no order. -/
example : Pipeline.issues ⟨"ci", false,
    [.job "build" "" false ["test"] none [], .job "test" "" false ["build"] none []]⟩ =
      [.dependencyCycle ["build", "test", "build"]] := by decide

end Pipewright
