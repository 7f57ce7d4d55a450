import Pipewright.Deployment.Act
import Pipewright.Remote.Client
import Pipewright.Report.Log

/-!
# Scripted servers

A server that gives the responses of a list in order, and refuses when they have run out. A session
is played against it without waiting, since the service's own time does not show.
-/
namespace Pipewright.Rehearsal

open Http

/-- A server: what it is going to answer, and what it has been asked. -/
structure Server where
  /-- The responses to come, some of which never arrive. -/
  responses : List (Option Response)
  /-- The requests so far. -/
  requests : List Request

namespace Server

/-- The response of a server with nothing left to answer. -/
def exhausted : Response := ⟨500, none, none, some (utf8 "script exhausted".toList)⟩

/-- Answers a request. -/
def answer (server : Server) (request : Request) : Option Response × Server :=
  let requests := server.requests ++ [request]
  match server.responses with
  | [] => (some exhausted, ⟨[], requests⟩)
  | response :: responses => (response, ⟨responses, requests⟩)

/-- Plays an exchange. -/
def play {α : Type} (server : Server) (exchange : Exchange α) : α × Server :=
  Dialogue.play answer server exchange

end Server

/-- A session on a server: what has been told and done. -/
structure Visit where
  /-- The client. -/
  client : Client
  /-- The server. -/
  server : Server
  /-- The entries so far. -/
  entries : List (Level × String)
  /-- The stages entered so far. -/
  stages : List Stage
  /-- The run that the session follows. -/
  run : Option (UInt64 × String)

namespace Visit

/-- The beginning of a visit. -/
def start (client : Client) (responses : List (Option Response)) : Visit :=
  ⟨client, ⟨responses, []⟩, [], [], none⟩

/-- Answers an act of a session that is never cancelled. -/
def answer (visit : Visit) : (act : Act) → act.Answer × Visit
  | .enter stage => (false, { visit with stages := visit.stages ++ [stage] })
  | .tell level message => ((), { visit with entries := visit.entries ++ [(level, message)] })
  | .follow run url => ((), { visit with run := some (run, url) })
  | .call credentials c =>
    let (result, server) := visit.server.play (visit.client.call credentials c)
    (result, { visit with server })
  | .pause _ => (false, visit)
  | .download credentials job =>
    let (result, server) := visit.server.play (visit.client.call credentials (.jobLog job))
    (some result, { visit with server })

/-- Plays a session. -/
def play {α : Type} (visit : Visit) (session : Session α) : α × Visit :=
  Dialogue.play answer visit session

end Visit

end Pipewright.Rehearsal
