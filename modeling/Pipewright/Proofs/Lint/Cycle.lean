import Mathlib.Data.List.Chain
import Mathlib.Logic.Relation
import Pipewright.Proofs.Lint.WellFormed

/-!
# Detection of dependency cycles

The dependency graph of some jobs has an edge from a name to each defined name, other than itself,
that the last job of this name needs. A search finds a path just when this graph has a cycle, and
the path goes around one (`Pipeline.findCycle_detects`).

The search is given fuel. What it does without a bound is told by rules, one for each way in which
the search from a name can go on (`Ends`). By these rules every search over every graph ends, in one
way only, and the fuel that is given is enough to end in this way (`existsUnique_ends`).
-/
namespace Pipewright

namespace Lint

/-! ## Searches without a bound -/

/-- How a search from names one after another ends, when the names are reached over a path and no
cycle is reached from the finished ones. -/
inductive Ends (edges : Edges) : List String → List String → List String → Search → Prop
  /-- No name is left. -/
  | done {path finished : List String} : Ends edges path finished [] (.ok finished)
  /-- A finished name is passed over. -/
  | known {path finished names : List String} {name : String} {outcome : Search}
      (known : name ∈ finished) (rest : Ends edges path finished names outcome) :
      Ends edges path finished (name :: names) outcome
  /-- A name that is met on the way to it ends the search with a cycle. -/
  | met {path finished names : List String} {name : String} (unknown : name ∉ finished)
      (met : name ∈ path) :
      Ends edges path finished (name :: names) (.error (fromName name path ++ [name]))
  /-- A name that is not defined is passed over. -/
  | undefined {path finished names : List String} {name : String} {outcome : Search}
      (unknown : name ∉ finished) (unmet : name ∉ path)
      (undefined : edges.lookup name = none) (rest : Ends edges path finished names outcome) :
      Ends edges path finished (name :: names) outcome
  /-- A cycle that is found from the names to which a name leads ends the search. -/
  | found {path finished names needs cycle : List String} {name : String}
      (unknown : name ∉ finished) (unmet : name ∉ path)
      (edge : edges.lookup name = some needs)
      (below : Ends edges (path ++ [name]) finished needs (.error cycle)) :
      Ends edges path finished (name :: names) (.error cycle)
  /-- A name is finished when the names to which it leads are. -/
  | finish {path finished names needs between : List String} {name : String} {outcome : Search}
      (unknown : name ∉ finished) (unmet : name ∉ path)
      (edge : edges.lookup name = some needs)
      (below : Ends edges (path ++ [name]) finished needs (.ok between))
      (rest : Ends edges path (name :: between) names outcome) :
      Ends edges path finished (name :: names) outcome

variable {jobs : List Job} {edges : Edges} {path finished names cycle body : List String}
  {name next last : String} {outcome other : Search}

/-- A search ends in one way only. -/
theorem Ends.unique (ends : Ends edges path finished names outcome)
    (also : Ends edges path finished names other) : outcome = other := by
  induction ends generalizing other with
  | done =>
    cases also
    rfl
  | known known _ ih =>
    cases also with
    | known _ rest => exact ih rest
    | met unknown => exact absurd known unknown
    | undefined unknown => exact absurd known unknown
    | found unknown => exact absurd known unknown
    | finish unknown => exact absurd known unknown
  | met unknown met =>
    cases also with
    | known known => exact absurd known unknown
    | met => rfl
    | undefined _ unmet => exact absurd met unmet
    | found _ unmet => exact absurd met unmet
    | finish _ unmet => exact absurd met unmet
  | undefined unknown unmet undefined _ ih =>
    cases also with
    | known known => exact absurd known unknown
    | met _ met => exact absurd met unmet
    | undefined _ _ _ rest => exact ih rest
    | found _ _ edge => simp [undefined] at edge
    | finish _ _ edge => simp [undefined] at edge
  | found unknown unmet edge _ ih =>
    cases also with
    | known known => exact absurd known unknown
    | met _ met => exact absurd met unmet
    | undefined _ _ undefined => simp [edge] at undefined
    | found _ _ same below =>
      have needs_eq := Option.some.inj (edge.symm.trans same)
      subst needs_eq
      exact ih below
    | finish _ _ same below =>
      have needs_eq := Option.some.inj (edge.symm.trans same)
      subst needs_eq
      cases ih below
  | finish unknown unmet edge _ _ ihBelow ihRest =>
    cases also with
    | known known => exact absurd known unknown
    | met _ met => exact absurd met unmet
    | undefined _ _ undefined => simp [edge] at undefined
    | found _ _ same below =>
      have needs_eq := Option.some.inj (edge.symm.trans same)
      subst needs_eq
      cases ihBelow below
    | finish _ _ same below rest =>
      have needs_eq := Option.some.inj (edge.symm.trans same)
      subst needs_eq
      have between_eq := Except.ok.inj (ihBelow below)
      subst between_eq
      exact ihRest rest

/-- A search with enough fuel ends as one without a bound. -/
theorem visitEach_ends {fuel : Nat} (nodup : path.Nodup)
    (defined : ∀ step ∈ path, IsDefined edges step) (enough : edges.length < path.length + fuel) :
    Ends edges path finished names (visitEach (visit edges fuel path) finished names) := by
  -- Going down a level takes one from the fuel and adds one to the path.
  induction fuel generalizing path finished names with
  | zero =>
    have short := length_le_of_defined nodup defined
    omega
  | succ fuel ihFuel =>
    induction names generalizing finished with
    | nil => exact .done
    | cons name names ihNames =>
      rw [visitEach]
      by_cases known : name ∈ finished
      · rw [visit_of_finished known]
        exact .known known ihNames
      by_cases met : name ∈ path
      · rw [visit_of_met known met]
        exact .met known met
      cases edge : edges.lookup name with
      | none =>
        rw [visit_of_undefined met edge]
        exact .undefined known met edge ihNames
      | some needs =>
        have stillDefined : ∀ step ∈ path ++ [name], IsDefined edges step := by
          intro step member
          rcases List.mem_append.mp member with old | new
          · exact defined step old
          · rw [List.mem_singleton.mp new]
            exact ⟨needs, edge⟩
        have stillEnough : edges.length < (path ++ [name]).length + fuel := by
          rw [List.length_append, List.length_singleton]
          omega
        have below : Ends edges (path ++ [name]) finished needs
            (visitEach (visit edges fuel (path ++ [name])) finished needs) :=
          ihFuel (nodup_path nodup met) stillDefined stillEnough
        rw [visit_of_defined known met edge]
        cases visited : visitEach (visit edges fuel (path ++ [name])) finished needs with
        | error cycle =>
          rw [visited] at below
          exact .found known met edge below
        | ok between =>
          rw [visited] at below
          exact .finish known met edge below ihNames

/-- As much fuel as there are edges, and one more, is enough for names that are reached over no
path. -/
theorem visitEach_ends_of_nil (edges : Edges) (finished names : List String) :
    Ends edges [] finished names
      (visitEach (visit edges (edges.length + 1) []) finished names) := by
  apply visitEach_ends List.nodup_nil
  · simp
  · show edges.length < 0 + (edges.length + 1)
    omega

/-- Every search from names that are reached over no path ends, and in one way only. -/
theorem existsUnique_ends (edges : Edges) (finished names : List String) :
    ∃! outcome, Ends edges [] finished names outcome :=
  have ends := visitEach_ends_of_nil edges finished names
  ⟨_, ends, fun _ also => also.unique ends⟩

/-- The cycle that a search ends with, if any. -/
def cycleOf : Search → Option (List String)
  | .ok _ => none
  | .error cycle => some cycle

/-- What is found among the jobs is what the search without a bound ends with. -/
theorem findCycle_of_ends (ends : Ends (edgesOf jobs) [] [] (jobs.map Job.name) outcome) :
    findCycle jobs = cycleOf outcome := by
  have fuelled := visitEach_ends_of_nil (edgesOf jobs) [] (jobs.map Job.name)
  rw [ends.unique fuelled, findCycle]
  cases visitEach (visit (edgesOf jobs) ((edgesOf jobs).length + 1) []) [] (jobs.map Job.name) with
  | ok => rfl
  | error => rfl

/-! ## The dependency graph -/

/-- Whether the last job of a name needs another name, which is that of a job. -/
def DependsOn (jobs : List Job) (name next : String) : Prop :=
  ∃ j, lastJob jobs name = some j ∧ next ∈ j.needs ∧ next ≠ name ∧ next ∈ jobs.map Job.name

/-- The edges of the dependency graph are those that lead to defined names. -/
theorem dependsOn_iff :
    DependsOn jobs name next ↔ Leads (edgesOf jobs) name next ∧ IsDefined (edgesOf jobs) next := by
  constructor
  · rintro ⟨j, isLast, needed, apart, isJob⟩
    obtain ⟨-, same⟩ := lastJob_eq_some isLast
    have edge : (edgesOf jobs).lookup name = some (otherNeeds j) := by
      rw [lookup_edgesOf, isLast, Option.map_some]
    have member : next ∈ otherNeeds j := by
      apply List.mem_filter.mpr
      exact ⟨needed, by simpa [same] using apart⟩
    exact ⟨⟨otherNeeds j, edge, member⟩, isDefined_iff.mpr isJob⟩
  · rintro ⟨⟨needs, edge, member⟩, defined⟩
    rw [lookup_edgesOf, Option.map_eq_some_iff] at edge
    obtain ⟨j, isLast, rfl⟩ := edge
    obtain ⟨-, same⟩ := lastJob_eq_some isLast
    obtain ⟨needed, apart⟩ := List.mem_filter.mp member
    exact ⟨j, isLast, needed, by simpa [same] using apart, isDefined_iff.mp defined⟩

/-- Whether a path goes around a cycle of the dependency graph: its first name is repeated last, and
the names before that are at least two, no two of them the same. -/
structure IsDependencyCycle (jobs : List Job) (path : List String) : Prop where
  /-- Each name depends on the next one. -/
  chain : path.IsChain (DependsOn jobs)
  /-- The first name is repeated last. -/
  closed : ∃ name between, path = name :: (between ++ [name])
  /-- There are at least two names. -/
  twoNames : 2 ≤ path.dropLast.length
  /-- No other name is repeated. -/
  nodup : path.dropLast.Nodup

/-- Each name before the last one of a chain is related to some name. -/
theorem exists_leads_of_chain (chain : (body ++ [last]).IsChain (Leads edges))
    (member : name ∈ body) : ∃ next, Leads edges name next := by
  obtain ⟨before, after, rfl⟩ := List.append_of_mem member
  have suffix : (name :: (after ++ [last])).IsChain (Leads edges) := by
    apply chain.suffix
    exact ⟨before, by simp⟩
  cases after with
  | nil => exact ⟨last, (List.isChain_cons_cons.mp suffix).1⟩
  | cons next rest => exact ⟨next, (List.isChain_cons_cons.mp suffix).1⟩

/-- Every name on a cycle is defined, so the cycle is one of the dependency graph. -/
theorem IsCycle.isDependencyCycle (isCycle : IsCycle (edgesOf jobs) cycle) :
    IsDependencyCycle jobs cycle := by
  obtain ⟨name, between, rfl⟩ := isCycle.closed
  have nodup : (name :: between).Nodup :=
    (List.perm_append_singleton name between).nodup_iff.mp isCycle.nodup
  have body_eq : (name :: (between ++ [name])).dropLast = name :: between := by
    rw [← List.cons_append, List.dropLast_concat]
  have chain : (name :: (between ++ [name])).IsChain (DependsOn jobs) := by
    refine isCycle.chain.imp_of_mem_tail_imp fun step following _ inTail leads => ?_
    have inBody : following ∈ name :: between :=
      (List.perm_append_singleton name between).subset inTail
    obtain ⟨next, needs, edge, -⟩ := exists_leads_of_chain isCycle.chain inBody
    exact dependsOn_iff.mpr ⟨leads, needs, edge⟩
  refine ⟨chain, ⟨name, between, rfl⟩, ?_, ?_⟩
  · -- A single name would depend on itself.
    rw [body_eq]
    cases between with
    | nil =>
      obtain ⟨j, -, -, apart, -⟩ := (List.isChain_cons_cons.mp chain).1
      exact absurd rfl apart
    | cons second rest =>
      rw [List.length_cons, List.length_cons]
      omega
  · rw [body_eq]
    exact nodup

/-- A chain goes from its first name to its last one. -/
theorem transGen_of_chain {related : String → String → Prop} (first : String)
    (chain : (first :: (body ++ [last])).IsChain related) : Relation.TransGen related first last := by
  induction body generalizing first with
  | nil => exact .single (List.isChain_cons_cons.mp chain).1
  | cons second rest ih =>
    obtain ⟨step, onward⟩ := List.isChain_cons_cons.mp chain
    exact .head step (ih second onward)

/-- A search that finds no cycle leaves ranks that fall along the edges of the dependency graph. -/
theorem exists_rank_of_findCycle_eq_none (unfound : findCycle jobs = none) :
    ∃ rank : String → Nat, ∀ name next, DependsOn jobs name next → rank next < rank name := by
  obtain ⟨finished, settles⟩ := findCycle_eq_none unfound
  refine ⟨rankIn finished, fun name next depends => ?_⟩
  obtain ⟨leads, nextDefined⟩ := dependsOn_iff.mp depends
  have defined : IsDefined (edgesOf jobs) name := by
    obtain ⟨needs, edge, -⟩ := leads
    exact ⟨needs, edge⟩
  have reached := settles.reached name (isDefined_iff.mp defined) defined
  exact settles.settled.rankIn_lt reached leads nextDefined

/-- The dependency graph has no cycle when its edges lower a rank. -/
theorem not_transGen_of_rank (rank : String → Nat)
    (lower : ∀ name next, DependsOn jobs name next → rank next < rank name) :
    ¬Relation.TransGen (DependsOn jobs) name name := by
  intro around
  have falls : ∀ next, Relation.TransGen (DependsOn jobs) name next → rank next < rank name := by
    intro next reaches
    induction reaches with
    | single depends => exact lower _ _ depends
    | tail _ depends ih =>
      have below := lower _ _ depends
      omega
  have below := falls name around
  omega

end Lint

open Lint in
/-- A search of a pipeline finds a path just when the dependency graph has a cycle, and the path
goes around one. Without a bound on it, the search of any graph ends in one way, and what is found
is what the search of the pipeline's graph ends with. -/
theorem Pipeline.findCycle_detects (p : Pipeline) :
    ((findCycle p.jobs).isSome ↔ ∃ name, Relation.TransGen (DependsOn p.jobs) name name) ∧
      (∀ path, findCycle p.jobs = some path → IsDependencyCycle p.jobs path) ∧
      (∀ edges finished names, ∃! outcome, Ends edges [] finished names outcome) ∧
      ∀ outcome, Ends (edgesOf p.jobs) [] [] (p.jobs.map Job.name) outcome →
        findCycle p.jobs = cycleOf outcome := by
  have sound : ∀ path, findCycle p.jobs = some path → IsDependencyCycle p.jobs path :=
    fun path found => (findCycle_eq_some found).isDependencyCycle
  refine ⟨⟨?_, ?_⟩, sound, existsUnique_ends, fun outcome => findCycle_of_ends⟩
  · intro isSome
    obtain ⟨path, found⟩ := Option.isSome_iff_exists.mp isSome
    have isCycle := sound path found
    obtain ⟨name, between, rfl⟩ := isCycle.closed
    exact ⟨name, transGen_of_chain name isCycle.chain⟩
  · rintro ⟨name, around⟩
    cases found : findCycle p.jobs with
    | some path => rfl
    | none =>
      obtain ⟨rank, lower⟩ := exists_rank_of_findCycle_eq_none found
      exact absurd around (not_transGen_of_rank rank lower)

/-- A name that is defined twice leads where its last definition does. -/
example : Lint.findCycle [⟨"a", "", false, ["b"], none, []⟩, ⟨"b", "", false, ["a"], none, []⟩,
    ⟨"a", "", false, ["a", "c"], none, []⟩] = none := by decide

end Pipewright
