import Pipewright.Command.Attend
import Pipewright.Proofs.Deployment.Likeness

/-!
# Reports that differ in a token

A token leaves a client in one place, the header field `authorization` of its requests. Requests
that differ at most there are alike (`Request.Like`); the exchange of a call goes alike with
credentials for the same repository, wherever its responses lead (`Client.call_alike`), and attended
sessions that go alike do the same deeds but for such requests (`Session.report_alike`).
-/
namespace Pipewright

open Dialogue (Alike)

namespace Http

/-- Whether two requests differ at most in the secret that they carry. -/
structure Request.Like (request other : Request) : Prop where
  /-- They ask for the same thing. -/
  method : request.method = other.method
  /-- They are for the same place. -/
  place : request.place = other.place
  /-- The other header fields are the same. -/
  headers : (request.without "authorization").headers = (other.without "authorization").headers
  /-- They have the same body. -/
  body : request.body = other.body

/-- A request is like itself. -/
theorem Request.like_refl (request : Request) : request.Like request := ⟨rfl, rfl, rfl, rfl⟩

/-- Requests that differ at most in the secret are alike, and are to be answered in the same way. -/
inductive Request.Likeness : Dialogue.Likeness Request fun _ => Option Response where
  /-- They may differ in the secret only. -/
  | masked {request other : Request} (like : request.Like other) : Likeness request other id

namespace Request

variable {request other : Request}

/-- Leaving out the same header field of alike requests leaves alike ones. -/
theorem Like.without (like : request.Like other) (name : String) :
    (request.without name).Like (other.without name) where
  method := like.method
  place := like.place
  headers := by
    have swap (request : Request) : ((request.without name).without "authorization").headers =
        (request.without "authorization").headers.filter fun field => field.1 != name := by
      simp [Request.without, Bool.and_comm]
    rw [swap, swap, like.headers]
  body := like.body

/-- Alike requests are sent alike from where one has been before. -/
theorem Like.sentFrom (like : request.Like other) (previous : Option Url) :
    (request.sentFrom previous).Like (other.sentFrom previous) := by
  unfold Request.sentFrom
  rw [like.place]
  split
  · exact like
  · exact like.without "authorization"

/-- Alike requests that are led on stay alike. -/
theorem Like.following (like : request.Like other) (status : Nat) (place : Url) :
    (request.following status place).Like (other.following status place) := by
  unfold Request.following
  rw [like.method]
  split
  · exact ⟨rfl, rfl, (like.without "content-type").headers, rfl⟩
  · exact ⟨rfl, rfl, like.headers, like.body⟩

end Request

/-- Alike requests are sent alike, by the places that may still be followed. -/
theorem sendMoving_alike (first : String) (moves : Nat) (previous : Option Url)
    {request other : Request} (like : request.Like other) :
    Alike Request.Likeness Eq (sendMoving first moves previous request)
      (sendMoving first moves previous other) := by
  induction moves generalizing previous request other with
  | zero =>
    rw [sendMoving, sendMoving, like.place]
    refine .ask (.masked (like.sentFrom previous)) fun response => ?_
    exact .refl (fun _ => .masked (Request.like_refl _)) (fun _ => rfl) _
  | succ moves ih =>
    rw [sendMoving, sendMoving, like.place]
    refine .ask (.masked (like.sentFrom previous)) fun response => ?_
    cases response with
    | none => exact .done rfl
    | some response =>
      dsimp only [id]
      split
      · exact .done rfl
      · split
        · exact ih _ (like.following _ _)
        · exact .done rfl

/-- Requests for an address are sent alike when their header fields differ in the secret only. -/
theorem send_alike (url : Url) (method : Method) (body : String)
    {headers others : List (String × String)}
    (masked : headers.filter (fun field => field.1 != "authorization") =
      others.filter fun field => field.1 != "authorization") :
    Alike Request.Likeness Eq (send url method headers body) (send url method others body) := by
  unfold send
  split
  · exact sendMoving_alike _ _ _ ⟨rfl, rfl, masked, rfl⟩
  · exact .done rfl

end Http

open Http

/-- The header fields of a call hold its token in one place. -/
theorem Call.headers_masked (c : Call) (token other : String) :
    (c.headers token).filter (fun field => field.1 != "authorization") =
      (c.headers other).filter fun field => field.1 != "authorization" := by
  unfold headers
  split <;> rfl

variable {credentials other : Credentials}

/-- The request of a call is sent alike with credentials for the same repository. -/
theorem Client.send_alike (client : Client) (repo : credentials.repo = other.repo) (c : Call) :
    Alike Request.Likeness Eq (client.send credentials c) (client.send other c) := by
  unfold Client.send
  rw [repo]
  split
  · exact .done rfl
  · split
    · exact .done rfl
    · exact Http.send_alike _ _ _ (c.headers_masked credentials.token other.token)

/-- A call goes alike with credentials for the same repository. -/
theorem Client.call_alike (client : Client) (repo : credentials.repo = other.repo) (c : Call) :
    Alike Request.Likeness Eq (client.call credentials c) (client.call other c) := by
  refine (client.send_alike repo c).bind_eq fun response => ?_
  cases response with
  | error fault => exact .done rfl
  | ok response => exact .done rfl

/-- Which deeds are alike: equal ones, and requests that differ at most in the secret. -/
inductive Deed.Like : Dialogue.Likeness Deed Deed.Answer where
  /-- A deed is like itself. -/
  | same (deed : Deed) : Like deed deed id
  /-- Requests may differ in the secret. -/
  | request {request other : Request} (like : request.Like other) :
      Like (.request request) (.request other) id

/-- Deeds are like themselves. -/
theorem deeds_alike {α : Type} (deeds : Deeds α) : Alike Deed.Like Eq deeds deeds :=
  .refl Deed.Like.same (fun _ => rfl) deeds

namespace Attendance

variable {α : Type} {exchanged twin : Exchange α}

/-- Exchanges that go alike are carried out alike. -/
theorem exchange_alike (view : View) (alike : Alike Request.Likeness Eq exchanged twin)
    (a : Attendance) :
    Alike Deed.Like Eq (a.exchange view exchanged) (a.exchange view twin) := by
  induction alike generalizing a with
  | done results =>
    cases results
    exact .done rfl
  | ask questions _ ih =>
    obtain ⟨like⟩ := questions
    refine .ask (.request like) fun answer => ?_
    refine (deeds_alike _).bind_eq fun later => ?_
    exact ih answer.1 later

/-- Exchanges that go alike are carried out alike up to an interruption. -/
theorem exchangeUnlessCancelled_alike (view : View)
    (alike : Alike Request.Likeness Eq exchanged twin) (a : Attendance) :
    Alike Deed.Like Eq (a.exchangeUnlessCancelled view exchanged)
      (a.exchangeUnlessCancelled view twin) := by
  induction alike generalizing a with
  | done results =>
    cases results
    exact .done rfl
  | ask questions _ ih =>
    obtain ⟨like⟩ := questions
    refine .ask (.request like) fun answer => ?_
    dsimp only [id]
    split
    · exact deeds_alike _
    · exact ih answer.1 a

end Attendance

/-- Sessions that go alike are attended alike. -/
theorem Session.attend_alike {α : Type} (view : View) {session twin : Session α}
    (alike : Alike Act.Like Eq session twin) (a : Attendance) :
    Alike Deed.Like Eq (session.attend view a) (twin.attend view a) := by
  induction alike generalizing a with
  | done results =>
    cases results
    exact .done rfl
  | @ask act _ _ _ _ questions _ ih =>
    cases questions with
    | same =>
      cases act with
      | enter stage => exact ih a.cancelled a
      | tell level message =>
        refine (deeds_alike (a.tell view level message)).bind_eq fun later => ?_
        exact ih () later
      | follow run url => exact ih () _
      | call credentials c =>
        refine (deeds_alike (a.exchange view (view.client.call credentials c))).bind_eq ?_
        rintro ⟨result, later⟩
        exact ih result later
      | pause milliseconds =>
        rw [Session.attend, Session.attend]
        split
        · exact ih true a
        · refine .ask (.same _) fun interrupted => ?_
          refine (deeds_alike (a.heed view interrupted)).bind_eq fun later => ?_
          exact ih interrupted later
      | download credentials job =>
        rw [Session.attend, Session.attend]
        split
        · exact ih none a
        · refine (deeds_alike (a.exchangeUnlessCancelled view
            (view.client.call credentials (.jobLog job)))).bind_eq ?_
          rintro ⟨log, later⟩
          exact ih log later
    | call repo c =>
      refine (a.exchange_alike view (view.client.call_alike repo c)).bind_eq ?_
      rintro ⟨result, later⟩
      exact ih result later
    | download repo job =>
      rw [Session.attend, Session.attend]
      split
      · exact ih none a
      · refine (a.exchangeUnlessCancelled_alike view
          (view.client.call_alike repo (.jobLog job))).bind_eq ?_
        rintro ⟨log, later⟩
        exact ih log later

/-- Attended sessions that go alike leave the same report. -/
theorem Session.report_alike (view : View) {session twin : Session Outcome}
    (alike : Alike Act.Like Eq session twin) :
    Alike Deed.Like Eq (session.report view) (twin.report view) := by
  refine .ask (.same _) fun sessionId => ?_
  refine (Session.attend_alike view alike .start).bind_eq fun ended => ?_
  exact deeds_alike _

end Pipewright
