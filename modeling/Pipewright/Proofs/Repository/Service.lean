import Pipewright.Proofs.Http.Base64
import Pipewright.Proofs.Remote.Record
import Pipewright.Proofs.Repository.Store
import Pipewright.Rehearsal.Script
import Pipewright.Remote.Client

/-!
# A service that keeps a repository

What a service may answer to the calls that read a branch, make objects or move a branch, and how
that changes the repository it keeps (`Archive.Serves`). Of a call that makes or moves something the
service sees the record that is sent and nothing else. A branch moves to a commit that contains its
head, or to any commit if the request allows that commits are lost; otherwise the service refuses
with one of the two statuses of a conflict. It may also refuse or fail for reasons of its own, and a
call that has failed may have taken effect. Nothing is assumed of the other calls.

Whatever the service answers, its store only grows (`Archive.Serves.extends`), and it has what a
reply says that it has (`Archive.Serves.keeps`).
-/
namespace Pipewright

open Http

/-- The repository that a service keeps. -/
structure Archive where
  /-- Its objects. -/
  store : ObjectStore
  /-- The hashes of the heads of its branches. -/
  heads : String → Option String

/-- Whether a call reads a branch, makes an object or moves a branch. -/
def Call.isAboutObjects : Call → Bool
  | branch _ => true
  | tree _ => true
  | createBlob _ => true
  | createTree _ _ _ => true
  | createCommit _ _ _ => true
  | updateRef _ _ => true
  | _ => false

/-- Whether a status says that a branch cannot be moved. -/
def IsConflictStatus (status : Nat) : Prop := status = 409 ∨ status = 422

namespace Archive

/-- The repository with a branch moved to a commit. -/
def move (archive : Archive) (branch sha : String) : Archive :=
  { archive with heads := fun name => if name = branch then some sha else archive.heads name }

/-- Whether a branch may be moved as requested: the commit contains its head, or commits may be
lost. -/
def Accepts (archive : Archive) (branch : String) (request : UpdateRef) : Prop :=
  ∃ head, archive.heads branch = some head ∧
    (request.force = true ∨ archive.store.Contains request.sha head)

/-- Whether a branch has moved past the commit below another one: its head is neither contained in
the commit below nor the other one. -/
def HasMovedPast (archive : Archive) (branch below commit : String) : Prop :=
  ∃ head, archive.heads branch = some head ∧ head ≠ commit ∧ ¬archive.store.Contains below head

/-- Whether a service that keeps a repository may answer a call so, and keep another repository
then. -/
inductive Serves (before : Archive) : (c : Call) → c.Result → Archive → Prop where
  /-- A branch is found at its head. -/
  | branch {name shown head : String} (found : before.heads name = some head) :
      Serves before (.branch name) (.ok ⟨shown, ⟨head⟩⟩) before
  /-- The tree of a commit is found. -/
  | tree {sha : String} {commit : Commit} (found : before.store.commits sha = some commit) :
      Serves before (.tree sha) (.ok ⟨commit.tree⟩) before
  /-- A blob is made. -/
  | createBlob {content blob : String} {request : CreateBlob} {bytes : List UInt8}
      {store : ObjectStore} (sent : (Call.createBlob content).content = some request.toJson)
      (encoded : request.encoding = "base64")
      (decoded : Base64.decode request.content.toList = some bytes)
      (extended : store.Extends before.store) (made : store.blobs blob = some bytes) :
      Serves before (.createBlob content) (.ok ⟨blob⟩) { before with store }
  /-- A tree is made from another one. -/
  | createTree {base path blob tree : String} {request : CreateTree} {files : FileTree}
      {store : ObjectStore} (sent : (Call.createTree base path blob).content = some request.toJson)
      (found : before.store.trees request.baseTree = some files)
      (extended : store.Extends before.store)
      (made : store.trees tree = some (request.entries.foldl FileTree.put files)) :
      Serves before (.createTree base path blob) (.ok ⟨tree⟩) { before with store }
  /-- A commit is made. -/
  | createCommit {message tree parent sha : String} {request : CreateCommit} {store : ObjectStore}
      (sent : (Call.createCommit message tree parent).content = some request.toJson)
      (extended : store.Extends before.store)
      (made : store.commits sha = some ⟨request.tree, request.parents, request.message⟩) :
      Serves before (.createCommit message tree parent) (.ok ⟨sha⟩) { before with store }
  /-- A branch is moved, whatever arrives of the answer. -/
  | moved {name sha : String} {request : UpdateRef} (result : (Call.updateRef name sha).Result)
      (sent : (Call.updateRef name sha).content = some request.toJson)
      (accepted : before.Accepts name request) :
      Serves before (.updateRef name sha) result (before.move name request.sha)
  /-- A call is refused as a conflict. -/
  | refused (c : Call) {response : Response} (conflict : IsConflictStatus response.status) :
      Serves before c (c.result response) before
  /-- A call fails otherwise, though a branch might have been moved. -/
  | failed {c : Call} {store : ObjectStore} (fault : RemoteFault)
      (extended : store.Extends before.store)
      (accepted : ∀ name sha, c = .updateRef name sha →
        ∃ request : UpdateRef, c.content = some request.toJson ∧ before.Accepts name request) :
      Serves before c (.error fault) { before with store }
  /-- Any other call is answered. -/
  | other {c : Call} (result : c.Result) (apart : c.isAboutObjects = false) :
      Serves before c result before

variable {before after : Archive}

/-- A service never forgets an object. -/
theorem Serves.extends {c : Call} {result : c.Result} (served : before.Serves c result after) :
    after.store.Extends before.store := by
  cases served with
  | createBlob _ _ _ extended _ => exact extended
  | createTree _ _ extended _ => exact extended
  | createCommit _ extended _ => exact extended
  | failed _ extended _ => exact extended
  | _ => exact .refl _

end Archive

/-! ## Replies -/

/-- Whether a store has what a reply says that it has. -/
def ObjectStore.Keeps (store : ObjectStore) : (c : Call) → c.Reply → Prop
  | .tree sha, tree => ∃ commit, store.commits sha = some commit ∧ commit.tree = tree.sha
  | .createBlob content, blob => store.blobs blob.sha = some (utf8 content.toList)
  | .createTree base path blob, tree => ∃ files, store.trees base = some files ∧
      store.trees tree.sha = some (files.put (.file path blob))
  | .createCommit message tree parent, commit =>
      store.commits commit.sha = some ⟨tree, [parent], message⟩
  | _, _ => True

/-- What a store has, a later one has. -/
theorem ObjectStore.Keeps.mono {store later : ObjectStore} (extended : later.Extends store)
    {c : Call} {reply : c.Reply} (keeps : store.Keeps c reply) : later.Keeps c reply := by
  cases c with
  | tree sha =>
    obtain ⟨commit, found, same⟩ := keeps
    exact ⟨commit, extended.commits _ _ found, same⟩
  | createBlob content => exact extended.blobs _ _ keeps
  | createTree base path blob =>
    obtain ⟨files, found, made⟩ := keeps
    exact ⟨files, extended.trees _ _ found, extended.trees _ _ made⟩
  | createCommit message tree parent => exact extended.commits _ _ keeps
  | _ => trivial

namespace Archive

variable {before after : Archive}

/-- A refusal as a conflict is no reply. -/
theorem result_of_conflict (c : Call) {response : Response}
    (conflict : IsConflictStatus response.status) :
    c.result response = .error (c.refusal (readRefusal response)) := by
  have unsuccessful : response.isSuccess = false := by
    rcases conflict with status | status <;> simp [Response.isSuccess, status]
  rw [Call.result, unsuccessful]
  rfl

/-- A service has what it replies that it has. -/
theorem Serves.keeps {c : Call} {reply : c.Reply} (served : before.Serves c (.ok reply) after) :
    after.store.Keeps c reply := by
  generalize answered : Except.ok reply = result at served
  cases served with
  | branch _ => trivial
  | @tree _ commit found =>
    cases answered
    exact ⟨commit, found, rfl⟩
  | @createBlob content blob request bytes store sent encoded decoded extended made =>
    cases answered
    obtain rfl := CreateBlob.toJson_injective (Option.some.inj sent)
    rw [String.toList_ofList, Base64.decode_encode] at decoded
    cases decoded
    exact made
  | @createTree base path blob tree request files store sent found extended made =>
    cases answered
    obtain rfl := CreateTree.toJson_injective (Option.some.inj sent)
    exact ⟨files, extended.trees _ _ found, made⟩
  | @createCommit message tree parent sha request store sent extended made =>
    cases answered
    obtain rfl := CreateCommit.toJson_injective (Option.some.inj sent)
    exact made
  | moved _ _ _ => trivial
  | refused _ conflict =>
    rw [result_of_conflict c conflict] at answered
    cases answered
  | failed _ _ _ => cases answered
  | other _ apart =>
    -- The calls that have something to keep are not among the others.
    cases c <;> trivial

/-! ## Moving a branch -/

/-- A call moves a branch only to a commit that contains its head, since it never asks for more. -/
theorem accepts_iff {name sha : String} {request : UpdateRef}
    (sent : (Call.updateRef name sha).content = some request.toJson) :
    before.Accepts name request ↔
      ∃ head, before.heads name = some head ∧ before.store.Contains sha head := by
  obtain rfl := UpdateRef.toJson_injective (Option.some.inj sent)
  simp [Accepts]

/-- A refusal as a conflict to move a branch is told from other refusals. -/
theorem updateRef_of_conflict {name sha : String} {response : Response}
    (conflict : IsConflictStatus response.status) :
    ∃ message,
      (Call.updateRef name sha).result response = .error (.conflict response.status message) := by
  rw [result_of_conflict _ conflict, readRefusal, Call.refusal]
  rw [if_pos (by simpa [IsConflictStatus] using conflict)]
  exact ⟨_, rfl⟩

/-- A branch is moved to a commit that contains its head, or it stays where it is; and it is refused
as a conflict unless the commit contains its head. -/
theorem Serves.updateRef {name sha : String} {result : (Call.updateRef name sha).Result}
    (served : before.Serves (.updateRef name sha) result after) :
    (∃ head, before.heads name = some head ∧ before.store.Contains sha head ∧
      (after = before.move name sha ∨
        after.heads = before.heads ∧ ∃ fault, result = .error fault)) ∨
    after = before ∧ ∃ status message, IsConflictStatus status ∧
      result = .error (.conflict status message) := by
  cases served with
  | moved _ sent accepted =>
    obtain ⟨head, found, contains⟩ := (accepts_iff sent).mp accepted
    obtain rfl := UpdateRef.toJson_injective (Option.some.inj sent)
    exact .inl ⟨head, found, contains, .inl rfl⟩
  | @refused _ response conflict =>
    obtain ⟨message, refused⟩ := updateRef_of_conflict conflict
    exact .inr ⟨rfl, response.status, message, conflict, refused⟩
  | failed fault _ accepted =>
    obtain ⟨request, sent, accepted⟩ := accepted name sha rfl
    obtain ⟨head, found, contains⟩ := (accepts_iff sent).mp accepted
    exact .inl ⟨head, found, contains, .inr ⟨rfl, fault, rfl⟩⟩
  | other _ apart => cases apart

section UpdateRef

variable {name sha : String} {result : (Call.updateRef name sha).Result}

/-- A branch that was moved is at the commit. -/
theorem Serves.heads_of_ok (served : before.Serves (.updateRef name sha) result after)
    (ok : result = .ok ()) : after.heads name = some sha := by
  rcases served.updateRef with
    ⟨_, _, _, rfl | ⟨_, fault, failed⟩⟩ | ⟨_, status, message, _, failed⟩
  · exact if_pos rfl
  · cases ok.symm.trans failed
  · cases ok.symm.trans failed

/-- No commit of a branch is lost, whatever becomes of the call. -/
theorem Serves.lossless (served : before.Serves (.updateRef name sha) result after)
    {head other : String} (found : before.heads name = some head)
    (contains : before.store.Contains head other) :
    ∃ now, after.heads name = some now ∧ after.store.Contains now other := by
  have contains := contains.mono served.extends
  rcases served.updateRef with
    ⟨top, foundTop, above, rfl | ⟨stays, _⟩⟩ | ⟨rfl, _⟩
  · cases Option.some.inj (foundTop.symm.trans found)
    exact ⟨sha, if_pos rfl, above.trans contains⟩
  · exact ⟨head, stays ▸ found, contains⟩
  · exact ⟨head, found, contains⟩

/-- Other branches stay where they are. -/
theorem Serves.heads_of_ne (served : before.Serves (.updateRef name sha) result after)
    {other : String} (apart : other ≠ name) : after.heads other = before.heads other := by
  rcases served.updateRef with ⟨_, _, _, rfl | ⟨stays, _⟩⟩ | ⟨rfl, _⟩
  · exact if_neg apart
  · rw [stays]
  · rfl

/-- A branch whose head is not contained in the parent of a commit stays there: it is at the commit
already, or the call is refused as a conflict. -/
theorem Serves.of_not_contains (served : before.Serves (.updateRef name sha) result after)
    {tree parent message head : String}
    (commit : before.store.commits sha = some ⟨tree, [parent], message⟩)
    (found : before.heads name = some head) (beyond : ¬before.store.Contains parent head) :
    after.heads = before.heads ∧ head = sha ∨
      after = before ∧ ∃ status message, IsConflictStatus status ∧
        result = .error (.conflict status message) := by
  rcases served.updateRef with ⟨top, foundTop, above, moves⟩ | conflict
  · cases Option.some.inj (foundTop.symm.trans found)
    have same : head = sha :=
      ((ObjectStore.contains_iff_of_parent commit).mp above).resolve_right beyond
    subst same
    refine .inl ⟨?_, rfl⟩
    rcases moves with rfl | ⟨stays, _⟩
    · funext other
      by_cases this : other = name
      · rw [this, found]
        exact if_pos rfl
      · exact if_neg this
    · exact stays
  · exact .inr conflict

end UpdateRef

/-! ## A service that does so -/

/-- The answer of a service that moves branches by one commit at a time and takes hashes from what
is asked for; a hash that is taken already is as good as no answer. -/
def serve (archive : Archive) : (c : Call) → c.Result × Archive
  | .branch name =>
    match archive.heads name with
    | some head => (.ok ⟨name, ⟨head⟩⟩, archive)
    | none => (.error (.refused 404 "Not Found"), archive)
  | .tree sha =>
    match archive.store.commits sha with
    | some commit => (.ok ⟨commit.tree⟩, archive)
    | none => (.error (.refused 404 "Not Found"), archive)
  | .createBlob content =>
    let sha := "blob of " ++ content
    match archive.store.blobs sha with
    | none =>
      let blobs := putObject archive.store.blobs sha (utf8 content.toList)
      (.ok ⟨sha⟩, { archive with store := { archive.store with blobs } })
    | some _ => (.error (.unanswered sha), archive)
  | .createTree base path blob =>
    let sha := base ++ " with " ++ blob
    match archive.store.trees base, archive.store.trees sha with
    | some files, none =>
      let trees := putObject archive.store.trees sha (files.put (.file path blob))
      (.ok ⟨sha⟩, { archive with store := { archive.store with trees } })
    | _, _ => (.error (.unanswered sha), archive)
  | .createCommit message tree parent =>
    let sha := "commit of " ++ tree
    match archive.store.commits sha with
    | none =>
      let commits := putObject archive.store.commits sha ⟨tree, [parent], message⟩
      (.ok ⟨sha⟩, { archive with store := { archive.store with commits } })
    | some _ => (.error (.unanswered sha), archive)
  | .updateRef name sha =>
    if (archive.heads name).any (archive.store.isAtOrAbove sha) then (.ok (), archive.move name sha)
    else ((Call.updateRef name sha).result ⟨422, none, none, none⟩, archive)
  | c => (Rehearsal.usualReply c, archive)

/-- That is a service as it may be. -/
theorem serves_serve (archive : Archive) (c : Call) :
    archive.Serves c (archive.serve c).1 (archive.serve c).2 := by
  have failed : ∀ (c : Call) (fault : RemoteFault), (∀ name sha, c ≠ .updateRef name sha) →
      archive.Serves c (.error fault) archive := fun c fault apart =>
    .failed fault (.refl _) fun name sha same => absurd same (apart name sha)
  cases c with
  | branch name =>
    simp only [serve]
    cases found : archive.heads name with
    | some head => exact .branch found
    | none => exact failed _ _ nofun
  | tree sha =>
    simp only [serve]
    cases found : archive.store.commits sha with
    | some commit => exact .tree found
    | none => exact failed _ _ nofun
  | createBlob content =>
    simp only [serve]
    cases fresh : archive.store.blobs ("blob of " ++ content) with
    | some _ => exact failed _ _ nofun
    | none =>
      refine .createBlob rfl rfl ?_
        ⟨fun _ _ => putObject_of_some fresh, fun _ _ => id, fun _ _ => id⟩ (if_pos rfl)
      rw [String.toList_ofList, Base64.decode_encode]
  | createTree base path blob =>
    simp only [serve]
    cases found : archive.store.trees base with
    | none => exact failed _ _ nofun
    | some files =>
      cases fresh : archive.store.trees (base ++ " with " ++ blob) with
      | some _ => exact failed _ _ nofun
      | none =>
        exact .createTree rfl found
          ⟨fun _ _ => id, fun _ _ => putObject_of_some fresh, fun _ _ => id⟩ (if_pos rfl)
  | createCommit message tree parent =>
    simp only [serve]
    cases fresh : archive.store.commits ("commit of " ++ tree) with
    | some _ => exact failed _ _ nofun
    | none =>
      exact .createCommit rfl ⟨fun _ _ => id, fun _ _ => id, fun _ _ => putObject_of_some fresh⟩
        (if_pos rfl)
  | updateRef name sha =>
    simp only [serve]
    split
    case isTrue above =>
      obtain ⟨head, found, above⟩ := (Option.any_eq_true _ _).mp above
      exact .moved _ rfl ⟨head, found, .inr (ObjectStore.contains_of_isAtOrAbove above)⟩
    case isFalse =>
      have conflict : IsConflictStatus (Response.mk 422 none none none).status := .inr rfl
      exact .refused _ conflict
  | _ => exact .other _ rfl

end Archive

end Pipewright
