import Pipewright.Lint.Basic

/-!
# Where issues come from

The issues of a pipeline are those of its jobs' own names and steps, job by job, then those of what
the jobs need, job by job and need by need, then a cycle, if there is one
(`Pipeline.issues_listed`). Where the linter goes through the jobs with a position and the names it
has seen so far, the list is told here by the places of jobs and steps: a job's name is a duplicate
when one of the jobs before its place has it, and a need is unknown when no job at all has it.

What the blocks of a pipeline are apart from jobs, and those of a job apart from steps, plays no
part (`Pipeline.issues_eq_of_jobs_eq_map`).
-/
namespace Pipewright

namespace Lint

variable {name job need : String} {seen : List String} {jobs : List Job} {j : Job} {position : Nat}
  {issue : Issue}

/-! ## Issues by place -/

/-- The issues of steps' names, by the places of the steps. -/
def stepIssuesAt (job : String) (steps : List Step) (start : Nat) : List Issue :=
  (steps.zipIdx start).flatMap fun (s, place) =>
    if isBlank s.name then [.emptyStepName job (place + 1)] else []

/-- The issue of the name of the job at a place. -/
def jobIssueAt (jobs : List Job) (j : Job) (place : Nat) : List Issue :=
  if isBlank j.name then [.emptyJobName (place + 1)]
  else if j.name ∈ (jobs.take place).map Job.name then [.duplicateJob j.name]
  else []

/-- The issue of a need of a job. -/
def needIssueAmong (jobs : List Job) (job need : String) : List Issue :=
  if need = job then [.selfDependency job]
  else if need ∈ jobs.map Job.name ∧ isBlank need = false then []
  else [.unknownNeed job need]

/-- Positions of steps count from one. -/
theorem stepNameIssues_eq (steps : List Step) (start : Nat) :
    stepNameIssues job (start + 1) steps = stepIssuesAt job steps start := by
  induction steps generalizing start with
  | nil => rfl
  | cons s steps ih => rw [stepNameIssues, ih, stepIssuesAt, stepIssuesAt, List.zipIdx_cons,
      List.flatMap_cons]

/-- The names seen so far are those of the jobs before a place, and the position is one more than
the place. -/
theorem nameIssues_eq (earlier jobs : List Job) :
    nameIssues (earlier.map Job.name).reverse (earlier.length + 1) jobs =
      (jobs.zipIdx earlier.length).flatMap fun (j, place) =>
        jobIssueAt (earlier ++ jobs) j place ++ stepIssuesAt j.name j.steps 0 := by
  induction jobs generalizing earlier with
  | nil => rfl
  | cons j jobs ih =>
    have seen_eq : j.name :: (earlier.map Job.name).reverse =
        ((earlier ++ [j]).map Job.name).reverse := by
      rw [List.map_append, List.reverse_append]
      rfl
    have length_eq : (earlier ++ [j]).length = earlier.length + 1 := List.length_append
    have jobs_eq : earlier ++ j :: jobs = (earlier ++ [j]) ++ jobs := List.append_cons _ _ _
    have before : (earlier ++ j :: jobs).take earlier.length = earlier := List.take_left
    have own : jobNameIssue (earlier.map Job.name).reverse (earlier.length + 1) j.name =
        jobIssueAt (earlier ++ j :: jobs) j earlier.length := by
      rw [jobIssueAt, before, jobNameIssue]
      simp only [List.mem_reverse]
    have later := ih (earlier ++ [j])
    rw [← seen_eq, length_eq, ← jobs_eq] at later
    rw [nameIssues, own, stepNameIssues_eq j.steps 0, later, List.zipIdx_cons, List.flatMap_cons]

/-- The names that a need may refer to are those of all jobs, blank ones apart. -/
theorem needIssue_definedNames :
    needIssue (definedNames jobs) job = needIssueAmong jobs job := by
  funext need
  have known : need ∈ definedNames jobs ↔ need ∈ jobs.map Job.name ∧ isBlank need = false := by
    rw [definedNames, List.mem_filter, Bool.not_eq_true']
  rw [needIssue, needIssueAmong]
  simp only [known]

/-! ## Kinds of issue -/

/-- Issues of steps' names are about names of steps. -/
theorem eq_of_mem_stepNameIssues {steps : List Step}
    (member : issue ∈ stepNameIssues job position steps) :
    ∃ number, issue = .emptyStepName job number := by
  induction steps generalizing position with
  | nil => cases member
  | cons s steps ih =>
    rw [stepNameIssues] at member
    rcases List.mem_append.mp member with own | later
    · split at own
      · exact ⟨position, List.mem_singleton.mp own⟩
      · cases own
    · exact ih later

/-- The issue of a job's name is that it is blank or a duplicate. -/
theorem eq_of_mem_jobNameIssue (member : issue ∈ jobNameIssue seen position name) :
    issue = .emptyJobName position ∨ issue = .duplicateJob name := by
  unfold jobNameIssue at member
  split at member
  · exact .inl (List.mem_singleton.mp member)
  · split at member
    · exact .inr (List.mem_singleton.mp member)
    · cases member

/-- The issue of a need is that it is the job's own name or that it is not defined. -/
theorem eq_of_mem_needIssues {defined : List String} (member : issue ∈ needIssues defined jobs) :
    ∃ job need, issue = .selfDependency job ∨
      issue = .unknownNeed job need ∧ need ∉ defined := by
  obtain ⟨j, -, ofJob⟩ := List.mem_flatMap.mp member
  obtain ⟨need, -, ofNeed⟩ := List.mem_flatMap.mp ofJob
  refine ⟨j.name, need, ?_⟩
  unfold needIssue at ofNeed
  split at ofNeed
  · exact .inl (List.mem_singleton.mp ofNeed)
  · split at ofNeed
    case isTrue => cases ofNeed
    case isFalse undefined => exact .inr ⟨List.mem_singleton.mp ofNeed, undefined⟩

/-- No issue of names is that a need is unknown. -/
theorem unknownNeed_not_mem_nameIssues :
    Issue.unknownNeed job need ∉ nameIssues seen position jobs := by
  induction jobs generalizing seen position with
  | nil => exact List.not_mem_nil
  | cons j jobs ih =>
    intro member
    rw [nameIssues] at member
    rcases List.mem_append.mp member with own | later
    · rcases List.mem_append.mp own with ofJob | ofStep
      · rcases eq_of_mem_jobNameIssue ofJob with same | same
        · cases same
        · cases same
      · obtain ⟨number, same⟩ := eq_of_mem_stepNameIssues ofStep
        cases same
    · exact ih later

/-- A need that is reported as unknown is not defined. -/
theorem not_mem_definedNames (p : Pipeline) (member : .unknownNeed job need ∈ p.issues) :
    need ∉ definedNames p.jobs := by
  rcases List.mem_append.mp member with earlier | ofCycle
  · rcases List.mem_append.mp earlier with ofName | ofNeed
    · exact absurd ofName unknownNeed_not_mem_nameIssues
    · obtain ⟨_, _, same | ⟨same, undefined⟩⟩ := eq_of_mem_needIssues ofNeed
      · cases same
      · cases same
        exact undefined
  · obtain ⟨path, -, same⟩ := List.mem_map.mp ofCycle
    cases same

/-! ## Duplicates -/

/-- Steps' names are no duplicates. -/
theorem count_duplicateJob_stepNameIssues (steps : List Step) :
    (stepNameIssues job position steps).count (.duplicateJob name) = 0 := by
  refine List.count_eq_zero.mpr fun member => ?_
  obtain ⟨number, same⟩ := eq_of_mem_stepNameIssues member
  cases same

/-- What a job needs is no duplicate. -/
theorem count_duplicateJob_needIssues (defined : List String) :
    (needIssues defined jobs).count (.duplicateJob name) = 0 := by
  refine List.count_eq_zero.mpr fun member => ?_
  obtain ⟨_, _, same | ⟨same, -⟩⟩ := eq_of_mem_needIssues member
  · cases same
  · cases same

/-- A cycle is no duplicate. -/
theorem count_duplicateJob_cycleIssues :
    (cycleIssues jobs).count (.duplicateJob name) = 0 := by
  refine List.count_eq_zero.mpr fun member => ?_
  obtain ⟨path, -, same⟩ := List.mem_map.mp member
  cases same

/-- A job is a duplicate of a name when it has this name and an earlier job had it. -/
theorem count_duplicateJob_jobNameIssue (named : isBlank name = false) :
    (jobNameIssue seen position j.name).count (.duplicateJob name) =
      if j.name = name ∧ name ∈ seen then 1 else 0 := by
  by_cases same : j.name = name
  · rw [jobNameIssue, same, named, if_neg Bool.false_ne_true]
    by_cases again : name ∈ seen
    · rw [if_pos again, if_pos ⟨rfl, again⟩]
      exact List.count_singleton_self
    · rw [if_neg again, if_neg (fun both => again both.2)]
      rfl
  · have apart : ¬(j.name = name ∧ name ∈ seen) := fun both => same both.1
    rw [if_neg apart]
    refine List.count_eq_zero.mpr fun member => ?_
    rcases eq_of_mem_jobNameIssue member with isBlank | isSame
    · cases isBlank
    · exact same (Issue.duplicateJob.inj isSame).symm

/-- Every job of a name is a duplicate but the first one, or this one, too, when the name has been
seen before. -/
theorem count_duplicateJob_nameIssues (named : isBlank name = false) :
    (nameIssues seen position jobs).count (.duplicateJob name) =
      (jobs.map Job.name).count name - if name ∈ seen then 0 else 1 := by
  induction jobs generalizing seen position with
  | nil =>
    rw [List.map_nil, List.count_nil, Nat.zero_sub]
    rfl
  | cons j jobs ih =>
    rw [nameIssues, List.count_append, List.count_append, count_duplicateJob_stepNameIssues,
      count_duplicateJob_jobNameIssue named, ih, List.map_cons, List.count_cons]
    by_cases same : j.name = name
    · -- The name has been seen from this job on.
      have seenNow : name ∈ j.name :: seen := by simp [same]
      have isName : (j.name == name) = true := by simpa using same
      rw [if_pos seenNow, if_pos isName]
      by_cases again : name ∈ seen
      · rw [if_pos again, if_pos ⟨same, again⟩]
        omega
      · rw [if_neg again, if_neg (fun both => again both.2)]
        omega
    · have isName : ¬(j.name == name) = true := by simpa using same
      have seenNow : (name ∈ j.name :: seen) ↔ name ∈ seen := by
        simp [Ne.symm same]
      simp only [seenNow]
      rw [if_neg isName, if_neg (fun both => same both.1)]
      omega

/-! ## Jobs seen through a view -/

section View

variable {view : Job → Job}

/-- The issues of names look at the names of jobs and at their steps. -/
theorem nameIssues_map (names : ∀ j, (view j).name = j.name) (steps : ∀ j, (view j).steps = j.steps) :
    nameIssues seen position (jobs.map view) = nameIssues seen position jobs := by
  induction jobs generalizing seen position with
  | nil => rfl
  | cons j jobs ih => rw [List.map_cons, nameIssues, nameIssues, ih, names, steps]

/-- The names of jobs are seen. -/
theorem names_map (names : ∀ j, (view j).name = j.name) :
    (jobs.map view).map Job.name = jobs.map Job.name := by
  rw [List.map_map]
  exact List.map_congr_left fun j _ => names j

/-- The issues of needs look at the names of jobs and at what they need. -/
theorem needIssues_map {defined : List String} (names : ∀ j, (view j).name = j.name)
    (needs : ∀ j, (view j).needs = j.needs) :
    needIssues defined (jobs.map view) = needIssues defined jobs := by
  rw [needIssues, needIssues, List.flatMap_map]
  simp only [names, needs]

/-- A cycle depends on the names of jobs and on what they need. -/
theorem findCycle_map (names : ∀ j, (view j).name = j.name)
    (needs : ∀ j, (view j).needs = j.needs) : findCycle (jobs.map view) = findCycle jobs := by
  have edges : edgesOf (jobs.map view) = edgesOf jobs := by
    rw [edgesOf, edgesOf, List.foldl_map]
    simp only [otherNeeds, names, needs]
  rw [findCycle, edges, names_map names]
  rfl

end View

end Lint

namespace Pipeline

/-- The issues of a pipeline look at the names of its jobs, at what they need and at their steps. -/
theorem issues_eq_of_jobs_eq_map {p q : Pipeline} {view : Job → Job}
    (jobs : q.jobs = p.jobs.map view) (names : ∀ j, (view j).name = j.name)
    (needs : ∀ j, (view j).needs = j.needs) (steps : ∀ j, (view j).steps = j.steps) :
    q.issues = p.issues := by
  have cycles : Lint.cycleIssues q.jobs = Lint.cycleIssues p.jobs := by
    rw [Lint.cycleIssues, jobs, Lint.findCycle_map names needs]
    rfl
  have defined : Lint.definedNames q.jobs = Lint.definedNames p.jobs := by
    rw [Lint.definedNames, jobs, Lint.names_map names]
    rfl
  rw [issues, cycles, defined, jobs, Lint.nameIssues_map names steps,
    Lint.needIssues_map names needs]
  rfl

end Pipeline

/-- The job with nothing inside it but its steps. -/
def Job.skeleton (j : Job) : Job := { j with children := j.steps.map Block.step }

/-- The pipeline with nothing inside it but its jobs, and nothing inside these but their steps. -/
def Pipeline.skeleton (p : Pipeline) : Pipeline :=
  { p with children := p.jobs.map fun j => j.skeleton.toBlock }

/-- The steps of a job are those of its skeleton. -/
theorem Job.steps_skeleton (j : Job) : j.skeleton.steps = j.steps := by
  show (j.steps.map Block.step).filterMap Block.step? = j.steps
  rw [List.filterMap_map]
  exact List.filterMap_some

/-- The jobs of a skeleton are the skeletons of the jobs. -/
theorem Pipeline.jobs_skeleton (p : Pipeline) : p.skeleton.jobs = p.jobs.map Job.skeleton := by
  show (p.jobs.map fun j => j.skeleton.toBlock).filterMap Block.job? = p.jobs.map Job.skeleton
  rw [List.filterMap_map]
  exact congrFun List.filterMap_eq_map p.jobs

open Lint in
/-- The issues of a pipeline: of each job its own name and those of its steps, then of each job what
it needs, then a cycle, if there is one. A name that is not blank is a duplicate as often as it is
defined but for the first time, a name that some job has is not unknown to any job, and blocks
other than jobs and steps count for no position. -/
theorem Pipeline.issues_listed (p : Pipeline) :
    p.issues =
        (p.jobs.zipIdx.flatMap fun (j, place) =>
          jobIssueAt p.jobs j place ++ stepIssuesAt j.name j.steps 0) ++
        (p.jobs.flatMap fun j => j.needs.flatMap (needIssueAmong p.jobs j.name)) ++
        ((findCycle p.jobs).map Issue.dependencyCycle).toList ∧
      (∀ name, isBlank name = false →
        p.issues.count (.duplicateJob name) = (p.jobs.map Job.name).count name - 1) ∧
      (∀ j ∈ p.jobs, isBlank j.name = false → ∀ job, .unknownNeed job j.name ∉ p.issues) ∧
      p.skeleton.issues = p.issues := by
  have listed : p.issues = (p.jobs.zipIdx.flatMap fun (j, place) =>
        jobIssueAt p.jobs j place ++ stepIssuesAt j.name j.steps 0) ++
      (p.jobs.flatMap fun j => j.needs.flatMap (needIssueAmong p.jobs j.name)) ++
      ((findCycle p.jobs).map Issue.dependencyCycle).toList := by
    have ownIssues := nameIssues_eq [] p.jobs
    have needs : needIssues (definedNames p.jobs) p.jobs =
        p.jobs.flatMap fun j => j.needs.flatMap (needIssueAmong p.jobs j.name) := by
      simp only [needIssues, needIssue_definedNames]
    have cycle : cycleIssues p.jobs = ((findCycle p.jobs).map Issue.dependencyCycle).toList := by
      rw [cycleIssues, Option.toList_map]
    rw [issues, needs, cycle]
    exact congrArg (· ++ _ ++ _) ownIssues
  refine ⟨listed, fun name named => ?_, fun j isJob named job => ?_, ?_⟩
  · rw [issues, List.count_append, List.count_append, count_duplicateJob_nameIssues named,
      count_duplicateJob_needIssues, count_duplicateJob_cycleIssues]
    simp
  · intro unknown
    have undefined := not_mem_definedNames p unknown
    have isName : j.name ∈ definedNames p.jobs := by
      apply List.mem_filter.mpr
      exact ⟨List.mem_map_of_mem isJob, by rw [named]; rfl⟩
    exact undefined isName
  · exact issues_eq_of_jobs_eq_map p.jobs_skeleton (fun _ => rfl) (fun _ => rfl) Job.steps_skeleton

/-- Needs refer to later jobs, and blocks of an unknown kind are not counted. -/
example : Pipeline.issues ⟨"ci", false,
    [.unknown, .job "test" "" false ["build", "test"] none [.unknown, .step { name := " " }],
      .job "build" "" false ["lint"] none [], .job "build" "" false [] none []]⟩ =
      [.emptyStepName "test" 1, .duplicateJob "build", .selfDependency "test",
        .unknownNeed "build" "lint"] := by decide

end Pipewright
