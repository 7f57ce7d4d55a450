import Pipewright.Dialogue
import Pipewright.Http.Url.Place

/-!
# Exchanges

An exchange is a dialogue of requests, each answered by a response or by nothing. Sending a request
follows the responses that name another place, at most ten of them, and the secret that a request
carries does not follow it to another host.
-/
namespace Pipewright.Http

/-- What a request asks for. -/
inductive Method where
  /-- To look something up. -/
  | get
  /-- To create something. -/
  | post
  /-- To change something. -/
  | patch
  deriving DecidableEq

/-- The name of a method. -/
def Method.name : Method → String
  | get => "GET"
  | post => "POST"
  | patch => "PATCH"

/-- A request. -/
structure Request where
  /-- What it asks for. -/
  method : Method
  /-- The place it is for. -/
  place : Url
  /-- Its header fields, with names in lower case. -/
  headers : List (String × String)
  /-- Its body. -/
  body : String

/-- A response. -/
structure Response where
  /-- The status. -/
  status : Nat
  /-- The media type of the body. -/
  mediaType : Option String
  /-- The place that it names. -/
  location : Option String
  /-- The body; nothing when it was cut off. -/
  body : Option (List UInt8)

/-- A dialogue of requests. -/
abbrev Exchange := Dialogue Request fun _ => Option Response

/-- Why a request has no response. -/
inductive SendFault where
  /-- The address is none. -/
  | noAddress
  /-- Nothing can be sent to the address. -/
  | unusable (url : String)
  /-- No response arrives to the request for the address. -/
  | unanswered (url : String)
  /-- The last response, from the address, names yet another place. -/
  | movedTooOften (url : String)
  deriving DecidableEq

/-- The wording of a missing response. -/
def SendFault.message : SendFault → String
  | noAddress => "builder error"
  | unusable url => "builder error for url (" ++ url ++ ")"
  | unanswered url => "error sending request for url (" ++ url ++ ")"
  | movedTooOften url => "error following redirect for url (" ++ url ++ ")"

namespace Request

/-- The request without a header field. -/
def without (request : Request) (name : String) : Request :=
  { request with headers := request.headers.filter fun field => field.1 != name }

/-- The request that only looks up what this one asked for. -/
def lookingUp (request : Request) : Request :=
  { request.without "content-type" with method := .get, body := "" }

/-- The request as it is sent from where one has been before: on another host it carries no
secret. -/
def sentFrom (request : Request) (previous : Option Url) : Request :=
  if previous.all request.place.isBeside then request else request.without "authorization"

/-- The request that a response with a status and a place leads to: one that created something is
followed by a lookup, unless the status says to repeat it. -/
def following (request : Request) (status : Nat) (place : Url) : Request :=
  if status = 303 || ((status = 301 || status = 302) && request.method = .post) then
    { request.lookingUp with place }
  else { request with place }

end Request

namespace Response

/-- Whether a status says that what was asked for is elsewhere. -/
def namesPlace (response : Response) : Bool :=
  response.status = 301 || response.status = 302 || response.status = 303
    || response.status = 307 || response.status = 308

/-- The place that a response to a request for another one names, if its status says so. -/
def nextPlace (response : Response) (here : Url) : Option Url :=
  if response.namesPlace then do (← Url.resolve here (← response.location)).place? else none

/-- Whether a status says that the request succeeded. -/
def isSuccess (response : Response) : Bool := 200 ≤ response.status && response.status < 300

end Response

/-- The most places that are followed. -/
def maxMoves : Nat := 10

/-- Sends a request and follows at most that many places; first is the address it was made for, and
previous the place that led to this one. -/
def sendMoving (first : String) : Nat → Option Url → Request → Exchange (Except SendFault Response)
  | moves, previous, request =>
    .ask (request.sentFrom previous) fun
      | none => .done (.error (.unanswered first))
      | some response =>
        match response.nextPlace request.place with
        | none => .done (.ok response)
        | some place =>
          match moves with
          | 0 => .done (.error (.movedTooOften request.place.text))
          | moves + 1 =>
            if place.isOfService then
              sendMoving first moves (some request.place) (request.following response.status place)
            else .done (.error (.unusable place.text))

/-- Sends a request for an address. -/
def send (url : Url) (method : Method) (headers : List (String × String)) (body : String) :
    Exchange (Except SendFault Response) :=
  match url.place?.filter Url.isOfService with
  | some place => sendMoving url.text maxMoves none ⟨method, place, headers, body⟩
  | none => .done (.error (.unusable url.text))

end Pipewright.Http
