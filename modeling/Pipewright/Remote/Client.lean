import Pipewright.Credentials
import Pipewright.Http.Base64
import Pipewright.Http.Charset
import Pipewright.Http.Exchange
import Pipewright.Remote.Call

/-!
# Calls over the network

How each call of the service is sent as a request, and how the response to it is read.
-/
namespace Pipewright

open Http

namespace Call

/-- The path of a call below the repository. -/
def path : Call → String
  | repository => ""
  | branch name => "/branches/" ++ name
  | tree sha => "/git/trees/" ++ sha
  | createBlob _ => "/git/blobs"
  | createTree _ _ _ => "/git/trees"
  | createCommit _ _ _ => "/git/commits"
  | updateRef name _ => "/git/refs/heads/" ++ name
  | workflows => "/actions/workflows"
  | dispatch workflow _ => "/actions/workflows/" ++ toString workflow.toNat ++ "/dispatches"
  | runs workflow _ => "/actions/workflows/" ++ toString workflow.toNat ++ "/runs"
  | jobs run => "/actions/runs/" ++ toString run.toNat ++ "/jobs"
  | jobLog job => "/actions/jobs/" ++ toString job.toNat ++ "/logs"

/-- The method of a call. -/
def method : Call → Method
  | createBlob _ => .post
  | createTree _ _ _ => .post
  | createCommit _ _ _ => .post
  | updateRef _ _ => .patch
  | dispatch _ _ => .post
  | _ => .get

/-- The branch that a call names in its query. -/
def queryBranch : Call → Option String
  | runs _ name => some name
  | _ => none

/-- The media type that a call asks for. -/
def accepted : Call → String
  | jobLog _ => "application/octet-stream"
  | _ => "application/vnd.github+json"

/-- The record that a call sends. -/
def content : Call → Option Json
  | createBlob content =>
    some (CreateBlob.toJson ⟨String.ofList (Base64.encode (utf8 content.toList)), "base64"⟩)
  | createTree base path blob => some (CreateTree.toJson ⟨base, [TreeEntry.file path blob]⟩)
  | createCommit message root parent => some (CreateCommit.toJson ⟨message, root, [parent]⟩)
  | updateRef _ sha => some (UpdateRef.toJson ⟨sha, false⟩)
  | dispatch _ name => some (DispatchWorkflow.toJson ⟨name⟩)
  | _ => none

/-- The body of a call. -/
def body (c : Call) : String :=
  match c.content with
  | some json => json.toText
  | none => ""

/-- The header fields of a call with a token. -/
def headers (c : Call) (token : String) : List (String × String) :=
  let fields :=
    [("authorization", "Bearer " ++ token), ("accept", c.accepted),
      ("user-agent", "trellis/0.1.0"), ("x-github-api-version", "2022-11-28")]
  match c.content with
  | some _ => fields ++ [("content-type", "application/json")]
  | none => fields

end Call

/-- What is said of a body that was cut off or cannot be read. -/
def unreadableBody : String := "error decoding response body"

/-- Reads a record from the body of a response. -/
def readRecord {α : Type} (reading : Json.Reading α) (response : Response) :
    Except RemoteFault α :=
  let fault : RemoteFault := .unreadable ("Failed to parse JSON response: " ++ unreadableBody)
  match response.body with
  | none => .error fault
  | some bytes =>
    match Json.readWhole reading (letters bytes) with
    | .ok value => .ok value
    | .error _ => .error fault

/-- Reads a text from the body of a response. -/
def readText (response : Response) : Except RemoteFault String :=
  match response.body with
  | none => .error (.unreadable ("Failed to read response body: " ++ unreadableBody))
  | some bytes => .ok (bodyText response.mediaType bytes)

/-- The refusal in a response. -/
def readRefusal (response : Response) : RemoteFault :=
  .refused response.status
    (match response.body with
      | none => "Unknown error"
      | some bytes => bodyText response.mediaType bytes)

namespace Call

/-- Reads the body of a response to a call that succeeds. -/
def readReply (response : Response) : (c : Call) → c.Result
  | repository => readRecord Repository.reading response
  | branch _ => readRecord Branch.reading response
  | tree _ => readRecord GitObject.reading response
  | createBlob _ => readRecord GitObject.reading response
  | createTree _ _ _ => readRecord GitObject.reading response
  | createCommit _ _ _ => readRecord GitObject.reading response
  | updateRef _ _ => .ok ()
  | workflows => (readRecord WorkflowList.reading response).map WorkflowList.workflows
  | dispatch _ _ => .ok ()
  | runs _ _ => (readRecord WorkflowRunList.reading response).map WorkflowRunList.runs
  | jobs _ => (readRecord RunJobList.reading response).map RunJobList.jobs
  | jobLog _ => readText response

/-- The refusal of a call: a branch that cannot be moved is in conflict. -/
def refusal (c : Call) (fault : RemoteFault) : RemoteFault :=
  match c, fault with
  | updateRef _ _, .refused status message =>
    if status = 409 || status = 422 then .conflict status message else .refused status message
  | _, fault => fault

/-- The result of a call from the response to its request. -/
def result (c : Call) (response : Response) : c.Result :=
  if response.isSuccess then c.readReply response
  else .error (c.refusal (readRefusal response))

end Call

/-- A client of the service at an address. -/
structure Client where
  /-- The address of the service's interface. -/
  baseUrl : String

namespace Client

/-- The client of an address; slashes at its end do not count. -/
def ofUrl (url : String) : Client :=
  ⟨String.ofList (url.toList.reverse.dropWhile (· == '/')).reverse⟩

/-- The address of a call about a repository. -/
def callUrl (client : Client) (repo : Slug) (c : Call) : String :=
  client.baseUrl ++ "/repos/" ++ repo.owner ++ "/" ++ repo.name ++ c.path

/-- Sends the request of a call. -/
def send (client : Client) (credentials : Credentials) (c : Call) :
    Exchange (Except SendFault Response) :=
  match Url.parse (client.callUrl credentials.repo c) with
  | none => .done (.error .noAddress)
  | some url =>
    if !url.hasHost then .done (.error (.unusable url.text))
    else
      let url := url.withoutUser
      let url :=
        match c.queryBranch with
        | some branch => url.withField "branch" branch
        | none => url
      Http.send url c.method (c.headers credentials.token) c.body

/-- Makes a call. -/
def call (client : Client) (credentials : Credentials) (c : Call) : Exchange c.Result := do
  match ← client.send credentials c with
  | .error fault => pure (.error (.unanswered fault.message))
  | .ok response => pure (c.result response)

end Client

end Pipewright
