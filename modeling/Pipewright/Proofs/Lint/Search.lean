import Mathlib.Data.List.Chain
import Pipewright.Lint.Cycle

/-!
# Depth-first search

A search that ends without a cycle has settled names: each defined name comes with all the defined
names to which it leads, and those were settled before it (`visit_settles`). A search that ends with
a cycle has followed edges around one (`visit_isCycle`). Fuel does not decide which of the two it
is: a path never repeats a defined name, so it is used up only when no defined name is left.
-/
namespace Pipewright.Lint

variable {edges : Edges} {path finished finished' names cycle : List String} {name next : String}

/-- Whether a name leads to another one. -/
def Leads (edges : Edges) (name next : String) : Prop :=
  ∃ needs, edges.lookup name = some needs ∧ next ∈ needs

/-- Whether a name is defined. -/
def IsDefined (edges : Edges) (name : String) : Prop := ∃ needs, edges.lookup name = some needs

/-- A defined name is that of an edge. -/
theorem IsDefined.mem_keys (defined : IsDefined edges name) : name ∈ edges.map Prod.fst := by
  obtain ⟨needs, found⟩ := defined
  induction edges with
  | nil => cases found
  | cons edge edges ih =>
    rw [List.lookup_cons] at found
    cases same : name == edge.1 with
    | true => exact List.mem_map.mpr ⟨edge, List.mem_cons_self, (eq_of_beq same).symm⟩
    | false =>
      rw [same] at found
      exact List.mem_cons_of_mem _ (ih found)

/-- A path of defined names that never repeats one is no longer than there are edges. -/
theorem length_le_of_defined (nodup : path.Nodup) (defined : ∀ step ∈ path, IsDefined edges step) :
    path.length ≤ edges.length := by
  have within : path ⊆ edges.map Prod.fst := fun step member => (defined step member).mem_keys
  have short := nodup.length_le_of_subset within
  rwa [List.length_map] at short

/-! ## One step of a search -/

section Step

variable {fuel : Nat}

/-- Nothing is left to search from a name that is finished. -/
theorem visit_of_finished (known : name ∈ finished) :
    visit edges (fuel + 1) path finished name = .ok finished := by
  rw [visit, if_pos known]

/-- A name that is met on the way to it closes a cycle. -/
theorem visit_of_met (unknown : name ∉ finished) (met : name ∈ path) :
    visit edges (fuel + 1) path finished name = .error (fromName name path ++ [name]) := by
  rw [visit, if_neg unknown, if_pos met]

/-- A name that is not defined leads nowhere. -/
theorem visit_of_undefined (unmet : name ∉ path) (undefined : edges.lookup name = none) :
    visit edges (fuel + 1) path finished name = .ok finished := by
  by_cases known : name ∈ finished
  · exact visit_of_finished known
  · rw [visit, if_neg known, if_neg unmet, undefined]

/-- A defined name is finished after the names to which it leads. -/
theorem visit_of_defined {needs : List String} (unknown : name ∉ finished) (unmet : name ∉ path)
    (edge : edges.lookup name = some needs) :
    visit edges (fuel + 1) path finished name =
      (visitEach (visit edges fuel (path ++ [name])) finished needs).map (name :: ·) := by
  rw [visit, if_neg unknown, if_neg unmet, edge]
  cases visited : visitEach (visit edges fuel (path ++ [name])) finished needs with
  | ok between => simp only [visited, Except.map]
  | error cycle => simp only [visited, Except.map]

/-- A path goes on with a name that has not been met. -/
theorem nodup_path (nodup : path.Nodup) (unmet : name ∉ path) : (path ++ [name]).Nodup := by
  refine List.nodup_append.mpr ⟨nodup, by simp, fun step member last isLast same => ?_⟩
  rw [List.mem_singleton.mp isLast] at same
  exact unmet (same ▸ member)

end Step

/-! ## Searches that settle names -/

/-- Whether names are settled: the defined names to which each of them leads come after it. -/
def IsSettled (edges : Edges) : List String → Prop
  | [] => True
  | name :: rest =>
    (∀ next, Leads edges name next → IsDefined edges next → next ∈ rest) ∧ IsSettled edges rest

/-- What a search from names makes of settled names: they stay so, and the defined ones among those
searched from are now among them. -/
structure Settles (edges : Edges) (finished names finished' : List String) : Prop where
  /-- All of them are settled. -/
  settled : IsSettled edges finished'
  /-- None is lost. -/
  kept : finished ⊆ finished'
  /-- The names searched from are among them. -/
  reached : ∀ name ∈ names, IsDefined edges name → name ∈ finished'

/-- Searching from names one after another settles all of them when each search settles its own. -/
theorem visitEach_settles {visit : List String → String → Search}
    (each : ∀ finished name finished', IsSettled edges finished →
      visit finished name = .ok finished' → Settles edges finished [name] finished')
    (settled : IsSettled edges finished) (found : visitEach visit finished names = .ok finished') :
    Settles edges finished names finished' := by
  induction names generalizing finished with
  | nil =>
    cases found
    exact ⟨settled, List.Subset.refl _, by simp⟩
  | cons name names ih =>
    unfold visitEach at found
    cases visited : visit finished name with
    | error cycle =>
      rw [visited] at found
      cases found
    | ok between =>
      rw [visited] at found
      have first := each finished name between settled visited
      have rest := ih first.settled found
      refine ⟨rest.settled, List.Subset.trans first.kept rest.kept, fun other member defined => ?_⟩
      rcases List.mem_cons.mp member with rfl | later
      · exact rest.kept (first.reached other List.mem_cons_self defined)
      · exact rest.reached other later defined

/-- A search from a name settles it. -/
theorem visit_settles {fuel : Nat} (nodup : path.Nodup)
    (defined : ∀ step ∈ path, IsDefined edges step) (enough : edges.length < path.length + fuel)
    (settled : IsSettled edges finished)
    (found : visit edges fuel path finished name = .ok finished') :
    Settles edges finished [name] finished' := by
  induction fuel generalizing path finished name finished' with
  | zero =>
    -- Without fuel the path would hold more defined names than there are.
    have short := length_le_of_defined nodup defined
    omega
  | succ fuel ih =>
    by_cases known : name ∈ finished
    · rw [visit_of_finished known] at found
      cases found
      exact ⟨settled, List.Subset.refl _, by simpa using fun _ => known⟩
    by_cases met : name ∈ path
    · rw [visit_of_met known met] at found
      cases found
    cases edge : edges.lookup name with
    | none =>
      rw [visit_of_undefined met edge] at found
      cases found
      exact ⟨settled, List.Subset.refl _, by simp [IsDefined, edge]⟩
    | some needs =>
      rw [visit_of_defined known met edge] at found
      have stillDefined : ∀ step ∈ path ++ [name], IsDefined edges step := by
        intro step member
        rcases List.mem_append.mp member with old | new
        · exact defined step old
        · rw [List.mem_singleton.mp new]
          exact ⟨needs, edge⟩
      cases visited : visitEach (visit edges fuel (path ++ [name])) finished needs with
      | error cycle =>
        rw [visited] at found
        cases found
      | ok between =>
        rw [visited] at found
        cases found
        have below := visitEach_settles (fun finished next finished' settled found =>
          ih (nodup_path nodup met) stillDefined (by simp; omega) settled found) settled visited
        refine ⟨⟨?_, below.settled⟩, List.subset_cons_of_subset _ below.kept, by simp⟩
        rintro next ⟨others, same, member⟩ isDefined
        rw [edge] at same
        cases same
        exact below.reached next member isDefined

/-- The defined names to which a settled name leads are settled. -/
theorem IsSettled.mem_of_leads (settled : IsSettled edges finished) (member : name ∈ finished)
    (leads : Leads edges name next) (defined : IsDefined edges next) : next ∈ finished := by
  induction finished with
  | nil => cases member
  | cons first rest ih =>
    rcases List.mem_cons.mp member with rfl | later
    · exact List.mem_cons_of_mem _ (settled.1 next leads defined)
    · exact List.mem_cons_of_mem _ (ih settled.2 later)

/-- How many settled names come after the last occurrence of a name. -/
def rankIn (finished : List String) (name : String) : Nat := finished.reverse.idxOf name

/-- A settled name leads to defined names of lower rank only. -/
theorem IsSettled.rankIn_lt (settled : IsSettled edges finished) (member : name ∈ finished)
    (leads : Leads edges name next) (defined : IsDefined edges next) :
    rankIn finished next < rankIn finished name := by
  induction finished with
  | nil => cases member
  | cons first rest ih =>
    have ranks : ∀ other, rankIn (first :: rest) other =
        if other ∈ rest then rankIn rest other else [first].idxOf other + rest.length := by
      intro other
      simp [rankIn, List.idxOf_append]
    by_cases later : name ∈ rest
    · have nextLater := settled.2.mem_of_leads later leads defined
      rw [ranks, ranks, if_pos later, if_pos nextLater]
      exact ih settled.2 later
    · have same : name = first := (List.mem_cons.mp member).resolve_right later
      have nextLater : next ∈ rest := settled.1 next (same ▸ leads) defined
      have low : rankIn rest next < rest.length := by
        simpa [rankIn] using List.idxOf_lt_length_of_mem (List.mem_reverse.mpr nextLater)
      rw [ranks, ranks, if_pos nextLater, if_neg later]
      omega

/-! ## Searches that find a cycle -/

/-- Whether names lead around a cycle: the first one is repeated last, and nothing else is. -/
structure IsCycle (edges : Edges) (cycle : List String) : Prop where
  /-- Each name leads to the next one. -/
  chain : cycle.IsChain (Leads edges)
  /-- The first name is repeated last. -/
  closed : ∃ name between, cycle = name :: (between ++ [name])
  /-- No other name is repeated. -/
  nodup : cycle.tail.Nodup

/-- The names from an occurrence on start with it. -/
theorem fromName_append {before after : List String} (first : name ∉ before) :
    fromName name (before ++ name :: after) = name :: after := by
  have skipped : ∀ other ∈ before, (other != name) = true := by
    intro other member
    simpa using fun same : other = name => first (same ▸ member)
  rw [fromName, List.dropWhile_append_of_pos skipped]
  simp

/-- A search from names one after another finds a cycle when one of its searches does. -/
theorem visitEach_error {visit : List String → String → Search}
    (found : visitEach visit finished names = .error cycle) :
    ∃ before, ∃ name ∈ names, visit before name = .error cycle := by
  induction names generalizing finished with
  | nil => cases found
  | cons name names ih =>
    unfold visitEach at found
    cases visited : visit finished name with
    | error other =>
      rw [visited] at found
      cases found
      exact ⟨finished, name, List.mem_cons_self, visited⟩
    | ok between =>
      rw [visited] at found
      obtain ⟨before, later, member, error⟩ := ih found
      exact ⟨before, later, List.mem_cons_of_mem _ member, error⟩

/-- A search that does not end well has gone around a cycle. -/
theorem visit_isCycle {fuel : Nat} (nodup : path.Nodup)
    (chain : (path ++ [name]).IsChain (Leads edges))
    (found : visit edges fuel path finished name = .error cycle) : IsCycle edges cycle := by
  induction fuel generalizing path finished name with
  | zero => cases found
  | succ fuel ih =>
    by_cases known : name ∈ finished
    · rw [visit_of_finished known] at found
      cases found
    by_cases met : name ∈ path
    · rw [visit_of_met known met] at found
      cases found
      obtain ⟨before, after, rfl⟩ := List.append_of_mem met
      obtain ⟨-, suffixNodup, apart⟩ := List.nodup_append.mp nodup
      have unmet : name ∉ before := fun early => apart name early name List.mem_cons_self rfl
      rw [fromName_append unmet]
      refine ⟨chain.suffix ⟨before, by simp⟩, ⟨name, after, rfl⟩, ?_⟩
      exact (List.perm_append_singleton name after).nodup_iff.mpr suffixNodup
    cases edge : edges.lookup name with
    | none =>
      rw [visit_of_undefined met edge] at found
      cases found
    | some needs =>
      rw [visit_of_defined known met edge] at found
      cases visited : visitEach (visit edges fuel (path ++ [name])) finished needs with
      | ok between =>
        rw [visited] at found
        cases found
      | error other =>
        rw [visited] at found
        cases found
        obtain ⟨before, next, member, error⟩ := visitEach_error visited
        refine ih (nodup_path nodup met) ?_ error
        have leads : Leads edges name next := ⟨needs, edge, member⟩
        rw [List.append_assoc, List.singleton_append, List.isChain_append_cons_cons]
        exact ⟨chain, leads, List.isChain_singleton next⟩

/-- There is no cycle where every name leads to names of lower rank only. -/
theorem IsCycle.not_ranked (isCycle : IsCycle edges cycle) (rank : String → Nat)
    (lower : ∀ name next, Leads edges name next → rank next < rank name) : False := by
  obtain ⟨name, between, rfl⟩ := isCycle.closed
  have falling : ((name :: (between ++ [name])).map rank).IsChain (· > ·) :=
    (List.isChain_map rank).mpr (isCycle.chain.imp lower)
  have apart := List.isChain_iff_pairwise.mp falling
  rw [List.map_cons, List.pairwise_cons] at apart
  have below : rank name < rank name := apart.1 _ (by simp)
  omega

end Pipewright.Lint
