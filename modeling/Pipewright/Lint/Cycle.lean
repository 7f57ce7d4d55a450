import Pipewright.Block.Basic

/-!
# Dependency cycles

The dependency graph of some jobs has the names of the jobs for nodes. A name leads to the names
that its last definition needs, other than itself; names that no job has lead nowhere. The search
goes depth first from every job in order and ends at the first name that is met again on the way
to it.
-/
namespace Pipewright.Lint

/-- A name and the names it leads to. -/
abbrev Edges := List (String × List String)

/-- Defines a name anew, in place of an earlier definition. -/
def define (name : String) (needs : List String) : Edges → Edges
  | [] => [(name, needs)]
  | (other, old) :: edges =>
    if other = name then (name, needs) :: edges else (other, old) :: define name needs edges

/-- The names a job needs, other than its own. -/
def otherNeeds (j : Job) : List String := j.needs.filter (· != j.name)

/-- The edges of some jobs, the last definition of a name being the one that counts. -/
def edgesOf (jobs : List Job) : Edges :=
  jobs.foldl (fun edges j => define j.name (otherNeeds j) edges) []

/-- The names from an occurrence on. -/
def fromName (name : String) (path : List String) : List String := path.dropWhile (· != name)

/-- The outcome of a search: a cycle, or the names from which no cycle is reached. -/
abbrev Search := Except (List String) (List String)

/-- Searches from names one after another, given how one name is searched from. -/
def visitEach (visit : List String → String → Search) (finished : List String) :
    List String → Search
  | [] => .ok finished
  | name :: names =>
    match visit finished name with
    | .ok finished => visitEach visit finished names
    | .error cycle => .error cycle

/-- Searches from a name that is reached over a path, given the names from which no cycle is
reached. Fuel bounds the path, which never repeats a defined name. -/
def visit (edges : Edges) : Nat → List String → List String → String → Search
  | 0, _, finished, _ => .ok finished
  | fuel + 1, path, finished, name =>
    if name ∈ finished then .ok finished
    else if name ∈ path then .error (fromName name path ++ [name])
    else
      match edges.lookup name with
      | none => .ok finished
      | some needs =>
        match visitEach (visit edges fuel (path ++ [name])) finished needs with
        | .ok finished => .ok (name :: finished)
        | .error cycle => .error cycle

/-- The first dependency cycle of some jobs, its first name repeated last. -/
def findCycle (jobs : List Job) : Option (List String) :=
  let edges := edgesOf jobs
  match visitEach (visit edges (edges.length + 1) []) [] (jobs.map Job.name) with
  | .ok _ => none
  | .error cycle => some cycle

end Pipewright.Lint
