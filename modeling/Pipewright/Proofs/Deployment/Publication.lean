import Pipewright.Proofs.Deployment.CallOrder

/-!
# What a session publishes

Before a session moves the branch it has read its head and the tree of that, and made a blob of the
document, a tree that adds the blob and a commit of this tree on top of the head, each from what the
calls before were answered (`IsOrderly.publication`). It reads one head only, since each of the
opening calls is made once.
-/
namespace Pipewright

variable {s : Settings} {token repo workflow : String} {calls more : List CallRecord}

/-! ## The first of the calls -/

/-- The first of scheduled calls are scheduled. -/
theorem IsScheduled.of_append {most : Nat} {names later : List String}
    (scheduled : IsScheduled most (names ++ later)) : IsScheduled most names := by
  obtain ⟨few, looks, logs, one, isPrefix⟩ := scheduled
  refine ⟨?_, looks, logs, one, (List.prefix_append names later).trans isPrefix⟩
  rw [List.count_append] at few
  omega

/-- The first of orderly calls are orderly. -/
theorem IsOrderly.of_append (orderly : IsOrderly s token repo workflow (calls ++ more)) :
    IsOrderly s token repo workflow calls where
  scheduled := by
    have scheduled := orderly.scheduled
    rw [List.map_append] at scheduled
    exact scheduled.of_append
  logs := by
    intro credentials run jobs member
    have logs := orderly.logs credentials run jobs (List.mem_append_left _ member)
    rw [List.filterMap_append] at logs
    exact (List.prefix_append _ _).trans logs
  entitled := fun r member => orderly.entitled r (List.mem_append_left _ member)
  succeeded := by
    rintro earlier r later rfl
    exact orderly.succeeded earlier r (later ++ more) (by simp)
  threaded := by
    rintro earlier r later rfl
    exact orderly.threaded earlier r (later ++ more) (by simp)

/-- An answered call is about what earlier ones were answered. -/
theorem IsOrderly.threaded_of_answered (orderly : IsOrderly s token repo workflow calls) {c : Call}
    {reply : c.Reply} (answered : Answered calls c reply) :
    ∃ earlier later, calls = earlier ++ later ∧ IsThreaded s workflow earlier c := by
  obtain ⟨credentials, member⟩ := answered
  obtain ⟨earlier, later, split⟩ := List.append_of_mem member
  exact ⟨earlier, _, split, orderly.threaded earlier _ later split⟩

/-! ## Calls that are made once -/

/-- Two members with a name that occurs at most once are the same. -/
theorem eq_of_count_le_one {α : Type} {f : α → String} {name : String} {xs : List α} {x y : α}
    (once : (xs.map f).count name ≤ 1) (hx : x ∈ xs) (hy : y ∈ xs) (fx : f x = name)
    (fy : f y = name) : x = y := by
  obtain ⟨front, back, rfl⟩ := List.append_of_mem hx
  have absent : ∀ z ∈ front ++ back, f z ≠ name := by
    intro z member named
    have counted : 0 < ((front ++ back).map f).count name :=
      List.count_pos_iff.mpr (named ▸ List.mem_map_of_mem member)
    simp only [List.map_append, List.map_cons, List.count_append, fx, List.count_cons_self]
      at once counted
    omega
  rcases List.mem_append.mp hy with before | after
  · exact absurd fy (absent y (List.mem_append_left _ before))
  · rcases List.mem_cons.mp after with same | after
    · exact same.symm
    · exact absurd fy (absent y (List.mem_append_right _ after))

/-- Each opening call is made at most once. -/
theorem IsScheduled.count_opening_le {most : Nat} {names : List String}
    (scheduled : IsScheduled most names) {name : String} (opening : name ∈ openingCalls) :
    names.count name ≤ 1 := by
  obtain ⟨-, looks, logs, -, isPrefix⟩ := scheduled
  have once : (callSchedule looks logs).count name = 1 := by
    simp only [openingCalls, List.mem_cons, List.not_mem_nil, or_false] at opening
    rcases opening with rfl | rfl | rfl | rfl | rfl | rfl | rfl | rfl | rfl <;>
      simp [callSchedule, openingCalls, List.count_replicate]
  exact once ▸ isPrefix.sublist.count_le name

/-- The head of one branch is read, and once. -/
theorem IsOrderly.branch_unique (orderly : IsOrderly s token repo workflow calls)
    {name other : String} {branch otherBranch : Branch}
    (answered : Answered calls (.branch name) branch)
    (answered' : Answered calls (.branch other) otherBranch) :
    name = other ∧ branch = otherBranch := by
  obtain ⟨credentials, member⟩ := answered
  obtain ⟨credentials', member'⟩ := answered'
  have opening : "get_branch" ∈ openingCalls := by decide
  have once := orderly.scheduled.count_opening_le opening
  cases eq_of_count_le_one once member member' rfl rfl
  exact ⟨rfl, rfl⟩

/-- The repository is looked up once. -/
theorem IsOrderly.repository_unique (orderly : IsOrderly s token repo workflow calls)
    {repository other : Repository} (answered : Answered calls .repository repository)
    (answered' : Answered calls .repository other) : repository = other := by
  obtain ⟨credentials, member⟩ := answered
  obtain ⟨credentials', member'⟩ := answered'
  have opening : "get_repository" ∈ openingCalls := by decide
  have once := orderly.scheduled.count_opening_le opening
  cases eq_of_count_le_one once member member' rfl rfl
  rfl

/-! ## The commit of the document -/

/-- What the calls before a branch is moved to a commit were answered: the head of that branch, its
tree, a blob of the document, a tree that adds the blob, and the commit of this tree. -/
structure IsPublication (s : Settings) (workflow : String) (calls : List CallRecord)
    (branch head base blob tree commit : String) : Prop where
  /-- The head of the branch was read. -/
  head_read : ∃ name, Answered calls (.branch branch) ⟨name, ⟨head⟩⟩
  /-- The tree of the head was read. -/
  base_read : Answered calls (.tree head) ⟨base⟩
  /-- A blob of the document was made. -/
  blob_made : Answered calls (.createBlob workflow) ⟨blob⟩
  /-- A tree with the blob at the path of the document was made from the tree of the head. -/
  tree_made : Answered calls (.createTree base s.workflowPath blob) ⟨tree⟩
  /-- The commit of that tree on top of the head was made. -/
  commit_made : Answered calls (.createCommit s.commitMessage tree head) ⟨commit⟩

/-- The commit that a session moves a branch to is that of the document on top of the head. -/
theorem IsOrderly.publication (orderly : IsOrderly s token repo workflow calls)
    {branch commit : String} (threaded : IsThreaded s workflow calls (.updateRef branch commit)) :
    ∃ head base blob tree, IsPublication s workflow calls branch head base blob tree commit := by
  obtain ⟨⟨repository, looked, rfl⟩, message, tree, head, made, committed, rfl⟩ := threaded
  -- Every other read and made object is found from the commit backwards.
  obtain ⟨_, later, rfl, rfl, ⟨base, path, blob, newTree, treed, rfl⟩, name, read, found, rfl⟩ :=
    orderly.threaded_of_answered committed
  have treed := treed.append later
  have found := found.append later
  obtain ⟨_, later, split, ⟨below, baseTree, below_read, rfl⟩, rfl, content, newBlob, blobbed,
    rfl⟩ := orderly.threaded_of_answered treed
  have below_read := split ▸ below_read.append later
  have blobbed := split ▸ blobbed.append later
  obtain ⟨_, later, split, rfl⟩ := orderly.threaded_of_answered blobbed
  obtain ⟨_, later, split, other, otherRead, otherFound, rfl⟩ :=
    orderly.threaded_of_answered below_read
  obtain ⟨rfl, rfl⟩ := orderly.branch_unique found (split ▸ otherFound.append later)
  obtain ⟨_, later, split, otherRepository, otherLooked, rfl⟩ :=
    orderly.threaded_of_answered found
  obtain rfl := orderly.repository_unique looked (split ▸ otherLooked.append later)
  exact ⟨read.commit.sha, baseTree.sha, newBlob.sha, newTree.sha, ⟨read.name, found⟩, below_read,
    blobbed, treed, committed⟩

end Pipewright
