import Pipewright.Proofs.Json.Writing
import Pipewright.Proofs.Remote.Scope

/-!
# Which branch a service reads

Four calls name a branch: two in their paths, one in its query and one in its body. A query escapes
whatever means something else in it, and so does a body. A path takes the name as it is: a number
sign in it starts a fragment, which is not sent, and what looks like an escape is one. Whatever is
lost so makes the name that is read shorter, so the name is read as it is exactly if there is
neither (`branch_read_iff`).
-/
namespace Pipewright

open Http

/-- The path of the address of a repository, to which calls about it add theirs. -/
def Client.repositoryPath (client : Client) (repo : Slug) : String :=
  ((Url.parse (client.callUrl repo .repository ++ "/")).map Url.directory).getD ""

/-- Whether a path names a branch after a front: what follows the front stands for the name. -/
def NamesBranch (front path name : String) : Prop :=
  ∃ rest, path.toList = front.toList ++ rest ∧ percentDecode rest = utf8 name.toList

section Paths

variable {name : List Char}

/-- What is cut off at a number sign has fewer bytes. -/
theorem length_utf8_cut (name : List Char) :
    (utf8 (name.takeWhile (· != '#'))).length ≤ (utf8 name).length ∧
      ('#' ∈ name → (utf8 (name.takeWhile (· != '#'))).length < (utf8 name).length) := by
  have both : utf8 (name.takeWhile (· != '#')) ++ utf8 (name.dropWhile (· != '#')) = utf8 name := by
    rw [← utf8_append, List.takeWhile_append_dropWhile]
  rw [← both, List.length_append]
  refine ⟨Nat.le_add_right _ _, fun marked => ?_⟩
  cases left : name.dropWhile (· != '#') with
  | nil =>
    have different := List.dropWhile_eq_nil_iff.mp left '#' marked
    exact absurd different (by decide)
  | cons sign rest =>
    have first := length_utf8_pos sign
    rw [utf8_cons sign, List.length_append]
    omega

/-- The name of a branch is read from a path that goes on with it exactly if it has no number sign
and no escape. -/
theorem exists_rest_iff (kept : List (List Char)) {front : List Char}
    (legal : isBranchName name = true) (plain : ∀ d ∈ front, Call.isPathChar d = true) :
    (∃ rest, (Url.extendPath .web kept
        ((front ++ '/' :: name).takeWhile (· != '#'))).toList =
          Url.joined kept ++ '/' :: (front ++ '/' :: rest) ∧ percentDecode rest = utf8 name) ↔
      '#' ∉ name ∧ hasEscape name = false := by
  have own := fun d member => Call.isPlain_of_isPathChar (plain d member)
  have cut : (front ++ '/' :: name).takeWhile (· != '#') =
      front ++ '/' :: name.takeWhile (· != '#') := by
    rw [List.takeWhile_append_of_pos fun d member => bne_iff_ne.mpr (own d member).noFragment,
      List.takeWhile_cons_of_pos (by decide)]
  have unbent : '\\' ∉ front ++ '/' :: name.takeWhile (· != '#') := by
    intro bent
    rcases List.mem_append.mp bent with early | late
    · exact (own _ early).noBackslash rfl
    · have within := List.takeWhile_subset _ (List.mem_of_ne_of_mem (by decide) late)
      exact (plain_of_isBranchName legal within).2.2 rfl
  rw [cut]
  constructor
  · rintro ⟨rest, path, read⟩
    have most := (Url.length_extendPath kept unbent).1
    rw [path, Url.length_percentDecode_slash, Url.length_percentDecode_slash,
      Url.length_percentDecode_slash, read] at most
    have shorter := length_utf8_cut name
    have fewer := length_percentDecode (name.takeWhile (· != '#'))
    have unmarked : '#' ∉ name := fun marked => by
      have less := shorter.2 marked
      omega
    have whole : name.takeWhile (· != '#') = name :=
      List.takeWhile_eq_self_iff.mpr fun d member =>
        bne_iff_ne.mpr fun same => unmarked (same ▸ member)
    rw [whole] at most fewer
    refine ⟨unmarked, Bool.eq_false_iff.mpr fun escapes => ?_⟩
    have less := fewer.2 escapes
    omega
  · rintro ⟨unmarked, unescaped⟩
    have whole : name.takeWhile (· != '#') = name :=
      List.takeWhile_eq_self_iff.mpr fun d member =>
        bne_iff_ne.mpr fun same => unmarked (same ▸ member)
    have undotted : Url.IsUndotted (front ++ '/' :: name) :=
      (Url.isUndotted_append_iff front name).mpr
        ⟨Url.isUndotted_of_forall fun d member => Call.no_dot_of_isPathChar (plain d member),
          Url.isUndotted_of_hasEscape unescaped fun part => head?_ne_of_isBranchName legal⟩
    rw [whole] at unbent ⊢
    have frontKept : percentEncode isEncodedInPath front = front :=
      percentEncode_eq_self fun d member => (own d member).unencoded
    refine ⟨percentEncode isEncodedInPath name, ?_, ?_⟩
    · rw [(Url.extendPath_eq_iff kept unbent).mpr undotted, percentEncode_append, frontKept]
      rfl
    · rw [percentDecode_percentEncode Url.sparesEscapes_path, percentDecode_eq_utf8 unescaped]

end Paths

section Requests

variable {client : Client} {credentials : Credentials} {root : Url} {name : String}
  {request : Request}

/-- The characters of a repository's place are visible and mark nothing. -/
theorem plain_place (repo : Slug) :
    ∀ d ∈ repo.place.toList, 0x20 < d.toNat ∧ d ≠ '?' ∧ d ≠ '#' := by
  have slug : ∀ d, isSlugChar d = true → 0x20 < d.toNat ∧ d ≠ '?' ∧ d ≠ '#' := fun d plain =>
    have own := isPlain_of_isSlugChar plain
    ⟨own.visible, own.noQuery, own.noFragment⟩
  exact repo.forall_mem_place (by decide) slug

/-- The address of a repository goes on after the slash of the client's base. -/
theorem Client.callUrl_repository (client : Client) (repo : Slug) :
    client.callUrl repo .repository = client.baseUrl ++ "/" ++ repo.place := by
  have nothing : Call.repository.path = "" := rfl
  rw [client.callUrl_eq, nothing, String.append_empty]

/-- Neither does the address of a repository mark anything if the client's base does not. -/
theorem clear_repository (clear : ∀ d ∈ client.baseUrl.toList, d ≠ '?' ∧ d ≠ '#') (repo : Slug) :
    ∀ d ∈ (client.callUrl repo .repository).toList, d ≠ '?' ∧ d ≠ '#' := by
  have slash : ∀ d ∈ "/".toList, d ≠ '?' ∧ d ≠ '#' := forall_mem_of_all (by decide)
  rw [client.callUrl_repository]
  exact Call.forall_mem_append (Call.forall_mem_append clear slash) fun d member =>
    (plain_place repo d member).2

/-- The address of a repository, with a slash, is one if the client's base is. -/
theorem exists_parse_repository (clear : ∀ d ∈ client.baseUrl.toList, d ≠ '?' ∧ d ≠ '#')
    (parsed : Url.parse (client.baseUrl ++ "/") = some root) (web : Url.kindOf root.scheme = .web)
    (repo : Slug) :
    ∃ repository, Url.parse (client.callUrl repo .repository ++ "/") = some repository := by
  have slash : ∀ d ∈ "/".toList, 0x20 < d.toNat ∧ d ≠ '?' := forall_mem_of_all (by decide)
  obtain ⟨-, kept, -, below⟩ := Url.exists_parse_below clear parsed web
  obtain ⟨fragment, repository⟩ := below (repo.place ++ "/") <|
    Call.forall_mem_append (fun d member =>
      ⟨(plain_place repo d member).1, (plain_place repo d member).2.1⟩) slash
  refine ⟨_, Eq.trans ?_ repository⟩
  rw [client.callUrl_repository, String.append_assoc]

/-- The first request of a call that names a branch in its path names that branch exactly if there
is no number sign and no escape in the name. -/
theorem path_names_branch_iff {c : Call}
    (clear : ∀ d ∈ client.baseUrl.toList, d ≠ '?' ∧ d ≠ '#')
    (parsed : Url.parse (client.baseUrl ++ "/") = some root)
    (legal : isBranchName name.toList = true) (named : c.pathBranch = some name)
    (sent : (client.send credentials c).first? = some request) :
    NamesBranch (client.repositoryPath credentials.repo ++ "/" ++ c.branchFront ++ "/")
        request.place.path name ↔ '#' ∉ name.toList ∧ hasEscape name.toList = false := by
  have visible : ∀ d ∈ c.path.toList, 0x20 < d.toNat ∧ d ≠ '?' :=
    Call.forall_mem_path named
      (fun d path => ⟨(Call.isPlain_of_isPathChar path).visible,
        (Call.isPlain_of_isPathChar path).noQuery⟩)
      fun d member => ⟨(plain_of_isBranchName legal member).1,
        (plain_of_isBranchName legal member).2.1⟩
  obtain ⟨web, -⟩ := exists_path_below clear parsed
    (Call.forall_mem_append (fun d member =>
      ⟨(plain_place _ d member).1, (plain_place _ d member).2.1⟩) visible)
    (client.callUrl_eq credentials.repo c) sent
  obtain ⟨repository, parsedThere⟩ := exists_parse_repository clear parsed web credentials.repo
  have path_eq : c.path = "/" ++ (c.branchFront ++ "/" ++ name) := by
    rw [Call.path_of_pathBranch named, String.append_assoc, String.append_assoc,
      String.append_assoc]
  have below : client.callUrl credentials.repo c =
      client.callUrl credentials.repo .repository ++ "/" ++ (c.branchFront ++ "/" ++ name) := by
    rw [client.callUrl_eq, client.callUrl_repository, path_eq]
    simp only [String.append_assoc]
  obtain ⟨-, kept, -, directory, -, -, -, -, path⟩ :=
    exists_path_below (clear_repository clear credentials.repo) parsedThere
      (fun d member => visible d <| by
        rw [path_eq, String.toList_append]
        exact List.mem_append_right _ member) below sent
  have chars : (c.branchFront ++ "/" ++ name).toList =
      c.branchFront.toList ++ '/' :: name.toList := by simp
  have front (rest : List Char) :
      (client.repositoryPath credentials.repo ++ "/" ++ c.branchFront ++ "/").toList ++ rest =
        Url.joined kept ++ '/' :: (c.branchFront.toList ++ '/' :: rest) := by
    simp [Client.repositoryPath, parsedThere, directory]
  rw [NamesBranch, path, chars]
  simp only [front]
  exact exists_rest_iff kept legal c.isPathChar_branchFront

/-- The query of a call that names a branch there holds one field, which is the branch. -/
theorem query_names_branch {workflow : UInt64}
    (clear : ∀ d ∈ client.baseUrl.toList, d ≠ '?' ∧ d ≠ '#')
    (parsed : Url.parse (client.baseUrl ++ "/") = some root)
    (sent : (client.send credentials (.runs workflow name)).first? = some request) :
    ∃ query, request.place.query = some query ∧
      formFields query.toList = [(utf8 "branch".toList, utf8 name.toList)] := by
  have visible : ∀ d ∈ (Call.runs workflow name).path.toList, 0x20 < d.toNat ∧ d ≠ '?' :=
    fun d member => ⟨(Call.plain_path (c := .runs workflow name) trivial d member).1,
      (Call.plain_path (c := .runs workflow name) trivial d member).2.1⟩
  obtain ⟨-, -, url, -, isFor, -, -, unasked, -⟩ := exists_path_below clear parsed
    (Call.forall_mem_append (fun d member =>
      ⟨(plain_place _ d member).1, (plain_place _ d member).2.1⟩) visible)
    (client.callUrl_eq credentials.repo _) sent
  refine ⟨String.ofList (formEncode "branch".toList ++ '=' :: formEncode name.toList), ?_, ?_⟩
  · rw [isFor.query]
    simp only [Call.queryBranch, Url.withField, unasked]
  · rw [String.toList_ofList, formFields_formField]

/-- The body of a call that names a branch there is a record of that branch. -/
theorem body_names_branch (workflow : UInt64) (name : String) :
    Json.parse (Call.dispatch workflow name).body = .ok (.object [("ref", .text name)]) := by
  have numberless : Json.IsNumberless (.object [("ref", .text name)]) := by
    simp [Json.IsNumberless, Json.HaveNoNumber]
  have shallow : (Json.object [("ref", .text name)]).nesting = 1 := rfl
  exact (Json.parse_toText_eq_ok_iff numberless).mpr ⟨shallow ▸ by decide, rfl⟩

end Requests

/-- A service reads the name of a branch from each of the four calls that name one: from the query
of a call and from the body of another one always, and from the paths of the other two exactly if
there is no number sign and no escape in the name. -/
theorem branch_read_iff {client : Client} {root : Url} {name : String}
    (clear : ∀ d ∈ client.baseUrl.toList, d ≠ '?' ∧ d ≠ '#')
    (parsed : Url.parse (client.baseUrl ++ "/") = some root)
    (legal : isBranchName name.toList = true) (credentials : Credentials) :
    (∀ request, (client.send credentials (.branch name)).first? = some request →
      (NamesBranch (client.repositoryPath credentials.repo ++ "/branches/") request.place.path
        name ↔ '#' ∉ name.toList ∧ hasEscape name.toList = false)) ∧
    (∀ sha request, (client.send credentials (.updateRef name sha)).first? = some request →
      (NamesBranch (client.repositoryPath credentials.repo ++ "/git/refs/heads/")
        request.place.path name ↔ '#' ∉ name.toList ∧ hasEscape name.toList = false)) ∧
    (∀ workflow request, (client.send credentials (.runs workflow name)).first? = some request →
      ∃ query, request.place.query = some query ∧
        formFields query.toList = [(utf8 "branch".toList, utf8 name.toList)]) ∧
    (∀ workflow request, (client.send credentials (.dispatch workflow name)).first? =
      some request → Json.parse request.body = .ok (.object [("ref", .text name)])) := by
  refine ⟨fun request sent => ?_, fun sha request sent => ?_,
    fun workflow request sent => query_names_branch clear parsed sent,
    fun workflow request sent => ?_⟩
  · have named := path_names_branch_iff clear parsed legal rfl sent
    rw [String.append_assoc, String.append_assoc] at named
    exact named
  · have named := path_names_branch_iff clear parsed legal rfl sent
    rw [String.append_assoc, String.append_assoc] at named
    exact named
  · obtain ⟨url, -, -, isFor⟩ := exists_isFor_of_sends sent
    rw [isFor.body]
    exact body_names_branch workflow name

/-- A percent sign before no digits is read as one. -/
theorem percent_sign_read :
    ∃ request, (plainClient.send plainCredentials (.branch "off/50%-now")).first? = some request ∧
      NamesBranch (plainClient.repositoryPath plainCredentials.repo ++ "/branches/")
        request.place.path "off/50%-now" := by
  obtain ⟨request, sent⟩ := Option.isSome_iff_exists.mp (by decide +kernel :
    (plainClient.send plainCredentials (.branch "off/50%-now")).first?.isSome = true)
  have legal : isBranchName "off/50%-now".toList = true := by decide +kernel
  have reads := branch_read_iff (forall_mem_of_all (by decide)) parse_plainClient legal
    plainCredentials
  exact ⟨request, sent, (reads.1 request sent).mpr (by decide)⟩

/-- What follows a number sign in the name of a branch is not read from a path, so another branch is
looked up and moved than the one that is run and polled. -/
theorem number_sign_cuts_branch :
    isBranchName "fix#12".toList = true ∧
      (∃ request, (plainClient.send plainCredentials (.branch "fix#12")).first? = some request ∧
        request.place.path = "/repos/octo/hello/branches/fix" ∧
        ¬NamesBranch "/repos/octo/hello/branches/" request.place.path "fix#12") ∧
      ∃ request, (plainClient.send plainCredentials (.updateRef "fix#12" "")).first? =
          some request ∧
        request.place.path = "/repos/octo/hello/git/refs/heads/fix" ∧
        ¬NamesBranch "/repos/octo/hello/git/refs/heads/" request.place.path "fix#12" := by
  have cut (front : String) : ¬NamesBranch front (front ++ "fix") "fix#12" := by
    rintro ⟨rest, path, read⟩
    rw [String.toList_append, List.append_cancel_left_eq] at path
    rw [← path] at read
    exact absurd read (by decide)
  have requested (c : Call) (path : String)
      (sent : (plainClient.send plainCredentials c).first?.map
        (fun request => request.place.path) = some path) :
      ∃ request, (plainClient.send plainCredentials c).first? = some request ∧
        request.place.path = path :=
    Option.map_eq_some_iff.mp sent
  obtain ⟨lookup, lookedUp, looked⟩ := requested (.branch "fix#12")
    "/repos/octo/hello/branches/fix" (by decide +kernel)
  obtain ⟨move, moved, path⟩ := requested (.updateRef "fix#12" "")
    "/repos/octo/hello/git/refs/heads/fix" (by decide +kernel)
  refine ⟨by decide +kernel, ⟨lookup, lookedUp, looked, ?_⟩, move, moved, path, ?_⟩
  · rw [looked]
    exact cut "/repos/octo/hello/branches/"
  · rw [path]
    exact cut "/repos/octo/hello/git/refs/heads/"

end Pipewright
