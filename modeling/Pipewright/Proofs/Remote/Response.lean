import Pipewright.Proofs.Dialogue
import Pipewright.Proofs.Remote.Request

/-!
# What a response comes to

The response to the last request of a call decides what the call results in, and its status and its
body decide that alone: a success whose body can be read gives what it holds, one whose body cannot
be read is a fault of its own, and any other response is a refusal with its status and its text, or
a conflict if it refuses to move a branch for one of two reasons (`Call.KeepsClass`). Nothing comes
between the response and the caller (`Client.call_isResult`).
-/
namespace Pipewright

open Http

/-! ## Bodies -/

namespace Http.Response

/-- Whether a response is a success by its status. -/
def Succeeds (response : Response) : Prop := 200 ≤ response.status ∧ response.status < 300

/-- Whether the body of a response is there and is read as a value. -/
def Holds {α : Type} (response : Response) (reading : Json.Reading α) (value : α) : Prop :=
  ∃ bytes, response.body = some bytes ∧ Json.readWhole reading (letters bytes) = .ok value

/-- The text that a refusal gives for its reason. -/
def reason (response : Response) : String :=
  match response.body with
  | some bytes => bodyText response.mediaType bytes
  | none => "Unknown error"

variable {α : Type} {response : Response} {reading : Json.Reading α} {value : α}

/-- A success is told by the status. -/
theorem isSuccess_iff : response.isSuccess = true ↔ response.Succeeds := by
  unfold isSuccess Succeeds
  rw [Bool.and_eq_true, decide_eq_true_eq, decide_eq_true_eq]

/-- A record is read from a body that holds it. -/
theorem readRecord_eq_ok_iff :
    readRecord reading response = .ok value ↔ response.Holds reading value := by
  unfold readRecord Holds
  cases response.body with
  | none => simp
  | some bytes =>
    cases read : Json.readWhole reading (letters bytes) with
    | ok other => simp [read]
    | error fault => simp [read]

/-- Where no record is read, what arrived is unreadable. -/
theorem exists_unreadable_of_readRecord {fault : RemoteFault}
    (unread : readRecord reading response = .error fault) :
    ∃ message, fault = .unreadable message := by
  unfold readRecord at unread
  split at unread
  · cases unread
    exact ⟨_, rfl⟩
  · split at unread
    · cases unread
    · cases unread
      exact ⟨_, rfl⟩

/-- A text is read from any body that is there. -/
theorem readText_eq_ok_iff {text : String} :
    readText response = .ok text ↔
      ∃ bytes, response.body = some bytes ∧ bodyText response.mediaType bytes = text := by
  unfold readText
  cases response.body <;> simp

/-- Where no text is read, what arrived is unreadable. -/
theorem exists_unreadable_of_readText {fault : RemoteFault}
    (unread : readText response = .error fault) : ∃ message, fault = .unreadable message := by
  unfold readText at unread
  split at unread
  · cases unread
    exact ⟨_, rfl⟩
  · cases unread

end Http.Response

/-! ## Calls -/

namespace Call

/-- Whether a reply to a call is what the body of a response to it stands for. To move a branch and
to start a workflow any body will do, and so does any text for a log; a list comes in a record. -/
def Decodes (response : Response) : (c : Call) → c.Reply → Prop
  | repository, reply => response.Holds Repository.reading reply
  | branch _, reply => response.Holds Branch.reading reply
  | tree _, reply => response.Holds GitObject.reading reply
  | createBlob _, reply => response.Holds GitObject.reading reply
  | createTree _ _ _, reply => response.Holds GitObject.reading reply
  | createCommit _ _ _, reply => response.Holds GitObject.reading reply
  | updateRef _ _, _ => True
  | workflows, reply => ∃ list, response.Holds WorkflowList.reading list ∧ list.workflows = reply
  | dispatch _ _, _ => True
  | runs _ _, reply => ∃ list, response.Holds WorkflowRunList.reading list ∧ list.runs = reply
  | jobs _, reply => ∃ list, response.Holds RunJobList.reading list ∧ list.jobs = reply
  | jobLog _, reply =>
    ∃ bytes, response.body = some bytes ∧ bodyText response.mediaType bytes = reply

/-- Whether a response refuses to move a branch since that has moved meanwhile. -/
def IsConflict (response : Response) : Call → Prop
  | updateRef _ _ => response.status = 409 ∨ response.status = 422
  | _ => False

/-- Whether the result of a call is the one for the status and the body of the response to it. -/
structure KeepsClass (c : Call) (response : Response) (result : c.Result) : Prop where
  /-- There is a reply if the response is a success and its body stands for the reply. -/
  reply_iff : ∀ reply, result = .ok reply ↔ response.Succeeds ∧ c.Decodes response reply
  /-- What arrived is unreadable if the response is a success and its body stands for nothing. -/
  unreadable_iff : (∃ message, result = .error (.unreadable message)) ↔
    response.Succeeds ∧ ∀ reply, ¬c.Decodes response reply
  /-- The call is refused with the status and the text of any other response that is no conflict. -/
  refused_iff : ∀ status message, result = .error (.refused status message) ↔
    (¬response.Succeeds ∧ ¬c.IsConflict response) ∧
      status = response.status ∧ message = response.reason
  /-- The call meets a conflict if the response is one. -/
  conflict_iff : ∀ status message, result = .error (.conflict status message) ↔
    c.IsConflict response ∧ status = response.status ∧ message = response.reason
  /-- The call does not lack an answer. -/
  answered : ∀ message, result ≠ .error (.unanswered message)

/-- Whether what a call results in is what has become of its request: a missing response is told as
such, and a response that has arrived is read. -/
def IsResult (c : Call) (sent : Except SendFault Response) (result : c.Result) : Prop :=
  match sent with
  | .error fault => result = .error (.unanswered fault.message)
  | .ok response => c.KeepsClass response result

variable {c : Call} {response : Response}

/-- A reply is read from a body that stands for it. -/
theorem readReply_eq_ok_iff {reply : c.Reply} :
    c.readReply response = .ok reply ↔ c.Decodes response reply := by
  have mapped {α β : Type} (read : Except RemoteFault α) (view : α → β) (value : β) :
      read.map view = .ok value ↔ ∃ list, read = .ok list ∧ view list = value := by
    cases read <;> simp [Except.map]
  cases c with
  | updateRef branch sha => exact iff_of_true rfl trivial
  | dispatch workflow branch => exact iff_of_true rfl trivial
  | workflows =>
    simp only [readReply, Decodes, mapped, Response.readRecord_eq_ok_iff]
  | runs workflow branch =>
    simp only [readReply, Decodes, mapped, Response.readRecord_eq_ok_iff]
  | jobs run =>
    simp only [readReply, Decodes, mapped, Response.readRecord_eq_ok_iff]
  | jobLog job => exact Response.readText_eq_ok_iff
  | _ => exact Response.readRecord_eq_ok_iff

/-- Where no reply is read, what arrived is unreadable. -/
theorem exists_unreadable_of_readReply {fault : RemoteFault}
    (unread : c.readReply response = .error fault) : ∃ message, fault = .unreadable message := by
  have mapped {α β : Type} {read : Except RemoteFault α} {view : α → β}
      (unread : read.map view = .error fault) : read = .error fault := by
    cases read with
    | error other => exact congrArg _ (Except.error.inj unread)
    | ok value => cases unread
  cases c with
  | updateRef branch sha => cases unread
  | dispatch workflow branch => cases unread
  | workflows => exact Response.exists_unreadable_of_readRecord (mapped unread)
  | runs workflow branch => exact Response.exists_unreadable_of_readRecord (mapped unread)
  | jobs run => exact Response.exists_unreadable_of_readRecord (mapped unread)
  | jobLog job => exact Response.exists_unreadable_of_readText unread
  | _ => exact Response.exists_unreadable_of_readRecord unread

/-- A conflict is no success. -/
theorem not_succeeds_of_isConflict (conflict : c.IsConflict response) :
    ¬response.Succeeds := by
  cases c with
  | updateRef branch sha =>
    intro success
    have below : response.status < 300 := success.2
    rcases conflict with status | status <;> omega
  | _ => exact conflict.elim

/-- A response refuses a call for the reason that it gives. -/
theorem readRefusal_eq (response : Response) :
    readRefusal response = .refused response.status response.reason := by
  unfold readRefusal Response.reason
  cases response.body <;> rfl

/-- A response that is a conflict is told as one. -/
theorem refusal_of_isConflict (conflict : c.IsConflict response) :
    c.refusal (readRefusal response) = .conflict response.status response.reason := by
  rw [readRefusal_eq]
  cases c with
  | updateRef branch sha =>
    have status : (response.status = 409 || response.status = 422) = true := by
      simpa [IsConflict] using conflict
    exact if_pos status
  | _ => exact conflict.elim

/-- A response that is no conflict stays a refusal. -/
theorem refusal_of_not_isConflict (calm : ¬c.IsConflict response) :
    c.refusal (readRefusal response) = .refused response.status response.reason := by
  rw [readRefusal_eq]
  cases c with
  | updateRef branch sha =>
    have status : ¬(response.status = 409 || response.status = 422) = true := by
      simpa [IsConflict] using calm
    exact if_neg status
  | _ => rfl

/-- The reply that is read from a success is what its body stands for. -/
theorem readReply_keepsClass (success : response.Succeeds) :
    c.KeepsClass response (c.readReply response) := by
  have calm : ¬c.IsConflict response := fun conflict =>
    not_succeeds_of_isConflict conflict success
  refine ⟨fun reply => ?_, ?_, fun status message => ?_, fun status message => ?_,
    fun message unanswered => ?_⟩
  · rw [readReply_eq_ok_iff]
    exact (and_iff_right success).symm
  · rw [and_iff_right success]
    simp only [← readReply_eq_ok_iff]
    cases read : c.readReply response with
    | ok reply => simp
    | error fault =>
      obtain ⟨message, rfl⟩ := exists_unreadable_of_readReply read
      simp
  · refine iff_of_false (fun refused => ?_) fun refused => ?_
    · obtain ⟨_, other⟩ := exists_unreadable_of_readReply refused
      cases other
    · exact refused.1.1 success
  · refine iff_of_false (fun refused => ?_) fun refused => calm refused.1
    obtain ⟨_, other⟩ := exists_unreadable_of_readReply refused
    cases other
  · obtain ⟨_, other⟩ := exists_unreadable_of_readReply unanswered
    cases other

/-- The refusal that is made of any other response is a conflict if the response is one. -/
theorem refusal_keepsClass (failure : ¬response.Succeeds) :
    c.KeepsClass response (.error (c.refusal (readRefusal response))) := by
  by_cases conflict : c.IsConflict response
  · rw [refusal_of_isConflict conflict]
    constructor <;> simp [failure, conflict, eq_comm]
  · rw [refusal_of_not_isConflict conflict]
    constructor <;> simp [failure, conflict, eq_comm]

/-- A response that has arrived is read by its status and its body. -/
theorem result_keepsClass (c : Call) (response : Response) :
    c.KeepsClass response (c.result response) := by
  unfold result
  split
  · next success => exact readReply_keepsClass (Response.isSuccess_iff.mp success)
  · next failure => exact refusal_keepsClass (mt Response.isSuccess_iff.mpr failure)

/-- What a call results in when its request has come to an end. -/
def resultOf (c : Call) : Except SendFault Response → c.Result
  | .error fault => .error (.unanswered fault.message)
  | .ok response => c.result response

/-- A call results in what has become of its request. -/
theorem resultOf_isResult (c : Call) (sent : Except SendFault Response) :
    c.IsResult sent (c.resultOf sent) := by
  cases sent with
  | error fault => rfl
  | ok response => exact c.result_keepsClass response

end Call

/-! ## Clients -/

/-- A call sends its request, and all else depends on what becomes of that. -/
theorem Client.call_eq (client : Client) (credentials : Credentials) (c : Call) :
    client.call credentials c =
      (client.send credentials c).bind fun sent => .done (c.resultOf sent) := by
  refine congrArg (client.send credentials c).bind (funext fun sent => ?_)
  cases sent <;> rfl

/-- Whatever a server answers to the requests of a call, it results in what becomes of them. -/
theorem Client.call_isResult {τ : Type} (client : Client) (credentials : Credentials) (c : Call)
    (respond : τ → Request → Option Response × τ) (state : τ) :
    c.IsResult ((client.send credentials c).play respond state).1
      ((client.call credentials c).play respond state).1 := by
  rw [client.call_eq, Dialogue.play_bind]
  exact c.resultOf_isResult _

end Pipewright
