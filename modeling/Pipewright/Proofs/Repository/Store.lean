import Mathlib.Logic.Relation
import Pipewright.Remote.Record

/-!
# The objects of a repository

A repository keeps blobs, trees and commits by their hashes, and never forgets one, so whatever is
found there is found in every later store (`ObjectStore.Extends`). The commits that a commit
contains are itself, its parents, and theirs.
-/
namespace Pipewright

/-- A commit. -/
structure Commit where
  /-- The hash of its tree. -/
  tree : String
  /-- The hashes of its parents. -/
  parents : List String
  /-- Its message. -/
  message : String

/-- The files of a tree by their paths. -/
abbrev FileTree : Type := String → Option TreeEntry

/-- A tree with a file put in its place. -/
def FileTree.put (files : FileTree) (entry : TreeEntry) : FileTree :=
  fun path => if path = entry.path then some entry else files path

/-- Objects by their hashes with one more of them. -/
def putObject {α : Type} (objects : String → Option α) (sha : String) (object : α) :
    String → Option α :=
  fun other => if other = sha then some object else objects other

/-- An object that is put under a new hash hides no other one. -/
theorem putObject_of_some {α : Type} {objects : String → Option α} {sha other : String}
    {object found : α} (fresh : objects sha = none) (known : objects other = some found) :
    putObject objects sha object other = some found := by
  have apart : other ≠ sha := by
    rintro rfl
    cases fresh.symm.trans known
  rw [putObject, if_neg apart, known]

/-- Blobs, trees and commits by their hashes. -/
structure ObjectStore where
  /-- The contents of blobs. -/
  blobs : String → Option (List UInt8)
  /-- The trees. -/
  trees : String → Option FileTree
  /-- The commits. -/
  commits : String → Option Commit

namespace ObjectStore

/-- Whether a store still has everything that another one has. -/
structure Extends (later store : ObjectStore) : Prop where
  /-- Blobs stay. -/
  blobs : ∀ sha blob, store.blobs sha = some blob → later.blobs sha = some blob
  /-- Trees stay. -/
  trees : ∀ sha tree, store.trees sha = some tree → later.trees sha = some tree
  /-- Commits stay. -/
  commits : ∀ sha commit, store.commits sha = some commit → later.commits sha = some commit

/-- A store has everything that it has. -/
theorem Extends.refl (store : ObjectStore) : store.Extends store :=
  ⟨fun _ _ => id, fun _ _ => id, fun _ _ => id⟩

/-- Whether a commit is a parent of another one. -/
def IsParent (store : ObjectStore) (child parent : String) : Prop :=
  ∃ commit, store.commits child = some commit ∧ parent ∈ commit.parents

/-- Whether a commit contains another one: it is reached from it by way of parents. -/
def Contains (store : ObjectStore) : String → String → Prop :=
  Relation.ReflTransGen store.IsParent

variable {store later : ObjectStore}

/-- A commit contains in a later store what it contained before. -/
theorem Contains.mono (extended : later.Extends store) {commit other : String}
    (contains : store.Contains commit other) : later.Contains commit other :=
  Relation.ReflTransGen.mono
    (fun _ _ ⟨above, found, member⟩ => ⟨above, extended.commits _ above found, member⟩) _ _ contains

/-- A commit with one parent contains itself and what the parent contains. -/
theorem contains_iff_of_parent {tree parent message commit other : String}
    (found : store.commits commit = some ⟨tree, [parent], message⟩) :
    store.Contains commit other ↔ other = commit ∨ store.Contains parent other := by
  constructor
  · intro contains
    rcases Relation.ReflTransGen.cases_head contains with same | ⟨next, ⟨above, has, member⟩, rest⟩
    · exact .inl same.symm
    · cases Option.some.inj (has.symm.trans found)
      cases List.mem_singleton.mp member
      exact .inr rest
  · rintro (rfl | contains)
    · exact .refl
    · exact .head ⟨_, found, List.mem_singleton_self parent⟩ contains

/-- Whether a commit is another one or has it as a parent. -/
def isAtOrAbove (store : ObjectStore) (sha head : String) : Bool :=
  sha == head || (store.commits sha).any fun commit => commit.parents.contains head

/-- A commit contains itself and its parents. -/
theorem contains_of_isAtOrAbove {sha head : String} (above : store.isAtOrAbove sha head = true) :
    store.Contains sha head := by
  rcases Bool.or_eq_true_iff.mp above with same | parent
  · rw [beq_iff_eq.mp same]
    exact .refl
  · obtain ⟨commit, found, member⟩ := (Option.any_eq_true _ _).mp parent
    exact .single ⟨commit, found, List.contains_iff_mem.mp member⟩

/-- Whether a commit adds a document to another one: that is its only parent, and the trees of both
differ at the path only, where the one of the commit has a file that holds the document. -/
def AddsDocument (store : ObjectStore) (path : String) (document : List UInt8)
    (below commit : String) : Prop :=
  ∃ old new files newFiles blob,
    store.commits below = some old ∧ store.commits commit = some new ∧ new.parents = [below] ∧
    store.trees old.tree = some files ∧ store.trees new.tree = some newFiles ∧
    (∀ other, other ≠ path → newFiles other = files other) ∧
    newFiles path = some (TreeEntry.file path blob) ∧ store.blobs blob = some document

end ObjectStore

end Pipewright
