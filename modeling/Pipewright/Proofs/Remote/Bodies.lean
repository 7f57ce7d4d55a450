import Pipewright.Proofs.Dialogue
import Pipewright.Proofs.Http.Base64
import Pipewright.Proofs.Json.Writing
import Pipewright.Proofs.Remote.Request
import Pipewright.Proofs.Remote.Response

/-!
# What calls carry

A call that has something to say says it in the body of its request, as the text of a record. That
text is read back as the record (`Call.parse_body`), and the record has the arguments of the call
and nothing else, so whatever they are the service is told them unchanged
(`bodies_carry_arguments`). Every request that a call sends carries that body, but for lookups that
a response has asked for in its place, which carry none (`Client.call_asksOnly`).
-/
namespace Pipewright

open Json Http

/-! ## Bodies -/

/-- What a call says has no number in it and does not nest deep. -/
theorem Call.isNumberless_content {c : Call} {written : Json} (sends : c.content = some written) :
    IsNumberless written ∧ written.nesting ≤ Outline.maxDepth := by
  cases c with
  | createBlob text =>
    cases sends
    exact ⟨⟨trivial, trivial, trivial⟩, Nat.le_of_ble_eq_true rfl⟩
  | createTree base path blob =>
    cases sends
    exact ⟨⟨trivial, ⟨⟨trivial, trivial, trivial, trivial, trivial⟩, trivial⟩, trivial⟩,
      Nat.le_of_ble_eq_true rfl⟩
  | createCommit message root parent =>
    cases sends
    exact ⟨⟨trivial, trivial, ⟨trivial, trivial⟩, trivial⟩, Nat.le_of_ble_eq_true rfl⟩
  | updateRef branch sha =>
    cases sends
    exact ⟨⟨trivial, trivial, trivial⟩, Nat.le_of_ble_eq_true rfl⟩
  | dispatch workflow branch =>
    cases sends
    exact ⟨⟨trivial, trivial⟩, Nat.le_of_ble_eq_true rfl⟩
  | _ => cases sends

/-- The body of a call is read as what the call says. -/
theorem Call.parse_body {c : Call} {written : Json} (sends : c.content = some written) :
    Json.parse c.body = .ok written.settled := by
  obtain ⟨numberless, shallow⟩ := isNumberless_content sends
  rw [body, sends]
  exact (parse_toText_eq_ok_iff numberless).mpr ⟨shallow, rfl⟩

/-- The bytes of a text are those of its characters one after another. -/
theorem toUTF8_eq (text : String) : text.toUTF8.data.toList = utf8 text.toList := by
  change text.toByteArray.data.toList = _
  rw [← String.utf8Encode_toList]
  exact List.toList_data_toByteArray

/-! ## Requests -/

/-- Whether a request carries a body, or only looks something up. -/
def Http.Request.Carries (body : String) (request : Request) : Prop :=
  request.body = body ∨ request.method = .get ∧ request.body = ""

/-- A request carries what it does wherever it is sent from. -/
theorem Http.Request.Carries.sentFrom {body : String} {request : Request}
    (carries : request.Carries body) (previous : Option Url) :
    (request.sentFrom previous).Carries body := by
  unfold Request.sentFrom
  split
  · exact carries
  · exact carries

/-- The request that a response leads to carries the same, or only looks something up. -/
theorem Http.Request.Carries.following {body : String} {request : Request}
    (carries : request.Carries body) (status : Nat) (place : Url) :
    (request.following status place).Carries body := by
  unfold Request.following
  split
  · exact .inr ⟨rfl, rfl⟩
  · exact carries

/-- A request that is followed to other places carries the same on the way, or only looks something
up. -/
theorem Http.sendMoving_asksOnly {body : String} (first : String) (moves : Nat)
    (previous : Option Url) {request : Request} (carries : request.Carries body) :
    (sendMoving first moves previous request).AsksOnly (Request.Carries body) := by
  induction moves generalizing previous request with
  | zero =>
    rw [sendMoving]
    refine .ask (carries.sentFrom previous) fun answer => ?_
    split
    · exact .done _
    · split
      · exact .done _
      · exact .done _
  | succ moves ih =>
    rw [sendMoving]
    refine .ask (carries.sentFrom previous) fun answer => ?_
    split
    · exact .done _
    · split
      · exact .done _
      · dsimp only
        split
        · exact ih _ (carries.following _ _)
        · exact .done _

/-- The requests for an address carry the body that is sent there, or only look something up. -/
theorem Http.send_asksOnly (url : Url) (method : Method) (headers : List (String × String))
    (body : String) : (Http.send url method headers body).AsksOnly (Request.Carries body) := by
  unfold Http.send
  split
  · exact sendMoving_asksOnly _ _ _ (.inl rfl)
  · exact .done _

/-- Whatever a call is answered, its requests carry its body, or only look something up. -/
theorem Client.call_asksOnly (client : Client) (credentials : Credentials) (c : Call) :
    (client.call credentials c).AsksOnly (Request.Carries c.body) := by
  rw [client.call_eq]
  refine Dialogue.AsksOnly.bind ?_ fun _ => .done _
  unfold Client.send
  split
  · exact .done _
  · split
    · exact .done _
    · exact Http.send_asksOnly _ _ _ _

/-- The first request of a call has its method and its body. -/
theorem Client.first_request {client : Client} {credentials : Credentials} {c : Call}
    {request : Request} (sent : (client.call credentials c).first? = some request) :
    request.method = c.method ∧ request.body = c.body := by
  have same : (client.call credentials c).first? = (client.send credentials c).first? := by
    rw [client.call_eq]
    cases client.send credentials c <;> rfl
  rw [same] at sent
  obtain ⟨url, -, -, isFor⟩ := exists_isFor_of_sends sent
  exact ⟨isFor.method, isFor.body⟩

/-! ## What is carried -/

/-- The body of a call is read as a record with the arguments of the call and nothing else. A new
blob is told in base64, and what that stands for are the bytes of the text. The first request of a
call has its body, and so have the others but for lookups, which have none. -/
theorem bodies_carry_arguments :
    (∀ text, ∃ content,
      Json.parse (Call.createBlob text).body =
        .ok (.object [("content", .text content), ("encoding", .text "base64")]) ∧
      Base64.decode content.toList = some text.toUTF8.data.toList) ∧
    (∀ base path blob, Json.parse (Call.createTree base path blob).body =
      .ok (.object [("base_tree", .text base), ("tree", .list [.object [("mode", .text "100644"),
        ("path", .text path), ("sha", .text blob), ("type", .text "blob")]])])) ∧
    (∀ message root parent, Json.parse (Call.createCommit message root parent).body =
      .ok (.object [("message", .text message), ("parents", .list [.text parent]),
        ("tree", .text root)])) ∧
    (∀ branch sha, Json.parse (Call.updateRef branch sha).body =
      .ok (.object [("force", .bool false), ("sha", .text sha)])) ∧
    (∀ workflow branch, Json.parse (Call.dispatch workflow branch).body =
      .ok (.object [("ref", .text branch)])) ∧
    ∀ (client : Client) (credentials : Credentials) (c : Call),
      (∀ request ∈ (client.call credentials c).first?,
        request.method = c.method ∧ request.body = c.body) ∧
      (client.call credentials c).AsksOnly (Request.Carries c.body) := by
  refine ⟨?_, ?_, ?_, ?_, ?_, ?_⟩
  · intro text
    have sends : (Call.createBlob text).content = some _ := rfl
    refine ⟨String.ofList (Base64.encode (utf8 text.toList)), Call.parse_body sends, ?_⟩
    rw [String.toList_ofList, Base64.decode_encode, toUTF8_eq]
  · intro base path blob
    have sends : (Call.createTree base path blob).content = some _ := rfl
    exact Call.parse_body sends
  · intro message root parent
    have sends : (Call.createCommit message root parent).content = some _ := rfl
    exact Call.parse_body sends
  · intro branch sha
    have sends : (Call.updateRef branch sha).content = some _ := rfl
    exact Call.parse_body sends
  · intro workflow branch
    have sends : (Call.dispatch workflow branch).content = some _ := rfl
    exact Call.parse_body sends
  · intro client credentials c
    exact ⟨fun request sent => Client.first_request sent, client.call_asksOnly credentials c⟩

end Pipewright
