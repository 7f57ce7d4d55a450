import Pipewright.Proofs.Http.Address
import Pipewright.Remote.Client

/-!
# The request of a call

Before anything is answered, a call sends at most one request. It goes to the address of the call
(`exists_isFor_of_sends`), and where that lies below the slash of an address, it is on the same host
and port, and its path goes on from there (`exists_path_below`).
-/
namespace Pipewright

/-- The first question of a dialogue, if it asks any. -/
def Dialogue.first? {Question : Type} {Answer : Question → Type} {α : Type} :
    Dialogue Question Answer α → Option Question
  | .done _ => none
  | .ask question _ => some question

open Http

/-- Whether a request is the one for a call at an address. -/
structure Http.Request.IsFor (request : Request) (c : Call) (url : Url) : Prop where
  /-- It has the scheme of the address. -/
  scheme : request.place.scheme = url.scheme
  /-- It goes to the host of the address. -/
  host : request.place.host = url.host
  /-- It goes to the port of the address. -/
  port : request.place.port = url.port
  /-- It is for the path of the address. -/
  path : request.place.path = if url.path = "" then "/" else url.path
  /-- Its query is that of the address, with the branch that the call names there. -/
  query : request.place.query =
    match c.queryBranch with
    | some branch => (url.withField "branch" branch).query
    | none => url.query
  /-- It has the method of the call. -/
  method : request.method = c.method
  /-- It has the body of the call. -/
  body : request.body = c.body

/-- Where an address with a host names a place, that is the address without its fragment. -/
theorem Http.Url.eq_of_place? {url place : Url} (hosted : url.hasHost = true)
    (placed : url.place? = some place) :
    place = { url with fragment := none, path := if url.path = "" then "/" else url.path } := by
  simp only [Url.place?, hosted, if_true] at placed
  split at placed
  · cases placed
  · split at placed
    · cases placed
      split
      · rfl
      · rfl
    · cases placed

/-- The address without its user is the same but for that. -/
theorem Http.Url.withoutUser_eq (url : Url) :
    ∃ username password, url.withoutUser = { url with username, password } := by
  unfold Url.withoutUser
  split
  · exact ⟨"", "", rfl⟩
  · exact ⟨url.username, url.password, rfl⟩

/-- The schemes under which requests are sent are of the web. -/
theorem Http.Url.kindOf_of_isOfService {url : Url} (service : url.isOfService = true) :
    Url.kindOf url.scheme = .web := by
  rcases Bool.or_eq_true_iff.mp service with http | https
  · rw [of_decide_eq_true http]
    decide
  · rw [of_decide_eq_true https]
    decide

/-- The first request for an address is for the place that it names. -/
theorem Http.eq_of_sends {url : Url} {method : Method} {headers : List (String × String)}
    {body : String} {request : Request}
    (sent : (Http.send url method headers body).first? = some request)
    (hosted : url.hasHost = true) :
    Url.kindOf url.scheme = .web ∧ request = ⟨method,
      { url with fragment := none, path := if url.path = "" then "/" else url.path }, headers,
      body⟩ := by
  unfold Http.send at sent
  split at sent
  · next place named =>
    obtain ⟨placed, service⟩ := Option.filter_eq_some_iff.mp named
    have isWeb := Url.kindOf_of_isOfService service
    obtain rfl := Url.eq_of_place? hosted placed
    refine ⟨isWeb, ?_⟩
    rw [sendMoving] at sent
    exact (Option.some.inj sent).symm
  · cases sent

variable {client : Client} {credentials : Credentials} {c : Call} {request : Request}

/-- The first request of a call is the one for it at its address, which is of the web. -/
theorem exists_isFor_of_sends (sent : (client.send credentials c).first? = some request) :
    ∃ url, Url.parse (client.callUrl credentials.repo c) = some url ∧
      Url.kindOf url.scheme = .web ∧ request.IsFor c url := by
  unfold Client.send at sent
  split at sent
  · cases sent
  · next url parsed =>
    split at sent
    · cases sent
    · next hosted =>
      have host (other : Url) (same : other.host = url.host) : other.hasHost = true := by
        rw [Url.hasHost, same]
        simpa [Url.hasHost] using hosted
      obtain ⟨username, password, anonymous⟩ := url.withoutUser_eq
      refine ⟨url, parsed, ?_⟩
      rw [anonymous] at sent
      cases branch : c.queryBranch with
      | none =>
        simp only [branch] at sent
        obtain ⟨web, rfl⟩ := Http.eq_of_sends sent (host _ rfl)
        exact ⟨web, rfl, rfl, rfl, rfl, by rw [branch], rfl, rfl⟩
      | some name =>
        simp only [branch] at sent
        obtain ⟨web, rfl⟩ := Http.eq_of_sends sent (host _ rfl)
        exact ⟨web, rfl, rfl, rfl, rfl, by rw [branch]; rfl, rfl, rfl⟩

/-- Where the address of a call goes on after the slash of an address, the first request goes to the
host and port of that address, and its path goes on from there up to a number sign. -/
theorem exists_path_below {base text : String} {root : Url}
    (clear : ∀ c ∈ base.toList, c ≠ '?' ∧ c ≠ '#') (parsed : Url.parse (base ++ "/") = some root)
    (plain : ∀ c ∈ text.toList, 0x20 < c.toNat ∧ c ≠ '?')
    (below : client.callUrl credentials.repo c = base ++ "/" ++ text)
    (sent : (client.send credentials c).first? = some request) :
    Url.kindOf root.scheme = .web ∧ ∃ kept url, root.directory.toList = Url.joined kept ∧
      request.IsFor c url ∧ url.host = root.host ∧ url.port = root.port ∧ url.query = none ∧
      request.place.path = Url.extendPath .web kept (text.toList.takeWhile (· != '#')) := by
  obtain ⟨url, address, web, isFor⟩ := exists_isFor_of_sends sent
  rw [below] at address
  have rootWeb := (Url.kindOf_below (fun c member => (plain c member).1) parsed address).trans web
  obtain ⟨unasked, kept, directory, addresses⟩ := Url.exists_parse_below clear parsed rootWeb
  obtain ⟨fragment, same⟩ := addresses text plain
  obtain rfl := Option.some.inj (address.symm.trans same)
  refine ⟨rootWeb, kept, _, directory, isFor, rfl, rfl, unasked, ?_⟩
  rw [isFor.path, if_neg (Url.extendPath_ne_empty _ _)]

end Pipewright
