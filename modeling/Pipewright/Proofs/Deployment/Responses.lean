import Pipewright.Proofs.Deployment.Attended
import Pipewright.Proofs.Deployment.CallOrder
import Pipewright.Proofs.Deployment.FaultLine
import Pipewright.Proofs.Remote.Response

/-!
# What a session tells of a response

An attended session sends the requests of its calls one after another, and what has become of each
is known from the deeds before it (`View.sent`). A response that ends the session is told by its
last entry, with the status, the text or the branch that it was about; and an entry of that kind
tells of such a response (`TellsResponses`).
-/
namespace Pipewright

open Deployment Http
open Dialogue (Ensures Throughout stateAfter answers_throughout play_bind)

variable {τ : Type}

/-! ## Attended sessions, act by act -/

section Attending

variable (view : View) (world : τ → (deed : Deed) → deed.Answer × τ)

/-- What an act is answered when somebody attends the session, and the state that this leaves: that
of the world, and what is kept of the session. -/
def View.answer (now : τ × Attendance) (act : Act) : act.Answer × (τ × Attendance) :=
  let answered := (act.attended view now.2).play world now.1
  (answered.1.1, (answered.2, answered.1.2))

/-- What becomes of the request of a call. -/
def View.sent (now : τ × Attendance) (credentials : Credentials) (c : Call) :
    Except SendFault Response :=
  ((now.2.exchange view (view.client.send credentials c)).play world now.1).1.1

/-- To attend a session is to answer its acts. -/
theorem Session.play_attend {α : Type} (session : Session α) (now : τ × Attendance) :
    (session.attend view now.2).play world now.1 =
      (((session.play (view.answer world) now).1, (session.play (view.answer world) now).2.2),
        (session.play (view.answer world) now).2.1) := by
  induction session generalizing now with
  | done result => rfl
  | ask act next ih =>
    rw [Session.attend_ask, play_bind]
    exact ih _ (view.answer world now act).2

/-- What is kept of an attended session in the end shows its history. -/
theorem Session.shows_play {α : Type} (session : Session α) (now : τ × Attendance)
    {past : List SessionTurn} (shows : now.2.Shows past) :
    (session.play (view.answer world) now).2.2.Shows
      (past ++ session.history (view.answer world) now) := by
  induction session generalizing now past with
  | done result => rwa [Dialogue.history, List.append_nil]
  | ask act next ih =>
    have ensured : Ensures (fun _ (answered : act.Answer × Attendance) =>
        answered.2.Shows (past ++ [⟨act, answered.1⟩])) [] (act.attended view now.2) :=
      act.ensures_attended shows
    have kept : (view.answer world now act).2.2.Shows
        (past ++ [⟨act, (view.answer world now act).1⟩]) := ensured.play world now.1
    have later := ih (view.answer world now act).1 (view.answer world now act).2 kept
    rw [List.append_assoc] at later
    exact later

/-- Before an attended session there is nothing but its identifier. -/
def attendedFrom (start : τ) : τ × Attendance := ((world start .newSession).2, .start)

/-- The report of an attended session shows its history. -/
theorem Session.report_shows (session : Session Outcome) (start : τ) :
    ((session.report view).play world start).1.Shows
      (session.history (view.answer world) (attendedFrom world start)) := by
  have attended := session.play_attend view world (attendedFrom world start)
  have shows := session.shows_play view world (attendedFrom world start) Attendance.shows_start
  rw [List.nil_append] at shows
  change Report.Shows (Dialogue.play world (attendedFrom world start).1
    ((session.attend view (attendedFrom world start).2).bind _)).1 _
  rw [play_bind, attended]
  exact ⟨shows.entries, congrArg (Option.map Prod.fst) shows.run,
    congrArg (Option.map Prod.snd) shows.run⟩

/-- An exchange that goes on after another one is carried out after that. -/
theorem Attendance.exchange_bind {α β : Type} (exchanged : Exchange α) (next : α → Exchange β)
    (a : Attendance) :
    a.exchange view (exchanged.bind next) =
      (a.exchange view exchanged).bind fun ended => ended.2.exchange view (next ended.1) := by
  induction exchanged generalizing a with
  | done result => rfl
  | ask request rest ih =>
    refine congrArg (Dialogue.ask _) (funext fun answer => ?_)
    dsimp only
    rw [Dialogue.bind_assoc]
    exact congrArg _ (funext fun a => ih answer.1 a)

/-- A call of an attended session results in what becomes of its request. -/
theorem View.answer_isResult (now : τ × Attendance) (credentials : Credentials) (c : Call) :
    c.IsResult (view.sent world now credentials c)
      (view.answer world now (.call credentials c)).1 := by
  have carried : (view.answer world now (.call credentials c)).1 =
      c.resultOf (view.sent world now credentials c) := by
    rw [View.answer, Act.attended, view.client.call_eq, View.sent]
    generalize view.client.send credentials c = exchanged
    rw [Attendance.exchange_bind]
    dsimp only
    rw [play_bind]
    rfl
  rw [carried]
  exact c.resultOf_isResult _

/-- Whether a call of a history has sent its request with a result. A log is asked for otherwise, so
it does not count as a call. -/
def View.Sends (start : τ × Attendance) (history : List SessionTurn) (c : Call)
    (sent : Except SendFault Response) : Prop :=
  ∃ past credentials result later, history = past ++ ⟨.call credentials c, result⟩ :: later ∧
    view.sent world (stateAfter (view.answer world) start past) credentials c = sent

/-- Every call of an attended session has sent its request, and results in what has become of
that. -/
theorem View.exists_sends {α : Type} (session : Session α) (start : τ × Attendance)
    {credentials : Credentials} {c : Call} {result : c.Result}
    (member : ⟨.call credentials c, result⟩ ∈ session.history (view.answer world) start) :
    ∃ sent, view.Sends world start (session.history (view.answer world) start) c sent ∧
      c.IsResult sent result := by
  obtain ⟨past, later, split⟩ := List.append_of_mem member
  have answered := answers_throughout session (view.answer world) start past _ later split
  refine ⟨_, ⟨past, credentials, result, later, split, rfl⟩, ?_⟩
  rw [show result = _ from answered]
  exact view.answer_isResult world _ credentials c

/-- What a call of an attended session has sent is what it results in. -/
theorem View.Sends.exists_turn {α : Type} {session : Session α} {start : τ × Attendance} {c : Call}
    {sent : Except SendFault Response}
    (sends : view.Sends world start (session.history (view.answer world) start) c sent) :
    ∃ credentials result,
      ⟨.call credentials c, result⟩ ∈ session.history (view.answer world) start ∧
        c.IsResult sent result := by
  obtain ⟨past, credentials, result, later, split, rfl⟩ := sends
  have answered := answers_throughout session (view.answer world) start past _ later split
  refine ⟨credentials, result, by rw [split]; simp, ?_⟩
  rw [show result = _ from answered]
  exact view.answer_isResult world _ credentials c

end Attending

/-! ## Faults of calls -/

/-- How a call fails with a fault, by what has become of its request. -/
inductive Call.Fails : Call → Except SendFault Response → DeployFault → Prop where
  /-- There was no response. -/
  | unanswered (c : Call) (fault : SendFault) : Fails c (.error fault) (.transport fault.message)
  /-- The response was a conflict. -/
  | conflict {branch sha : String} {response : Response}
      (conflict : (Call.updateRef branch sha).IsConflict response) :
      Fails (.updateRef branch sha) (.ok response) (.conflict branch response.status)
  /-- The response refused the call otherwise. -/
  | refused {c : Call} {response : Response} (failure : ¬response.Succeeds)
      (calm : ¬c.IsConflict response) :
      Fails c (.ok response) (.remote response.status response.reason)
  /-- The response was a success that could not be read. -/
  | unreadable {c : Call} {response : Response} (success : response.Succeeds)
      (undecoded : ∀ reply, ¬c.Decodes response reply) (message : String) :
      Fails c (.ok response) (.invalidResponse message)

section Faults

variable {s : Settings} {c : Call} {sent : Except SendFault Response} {result : c.Result}

/-- A call that is answered is a fault only if the workflow is missing. -/
theorem callFault?_ok {reply : c.Reply} {fault : DeployFault}
    (faulty : callFault? s c (.ok reply) = some fault) : fault = .notRegistered := by
  cases c with
  | workflows =>
    simp only [callFault?] at faulty
    split at faulty
    · exact (Option.some.inj faulty).symm
    · cases faulty
  | _ => cases faulty

/-- A call with a fault of its own fails with it. -/
theorem fails_of_callFault? (isResult : c.IsResult sent result) {fault : DeployFault}
    (faulty : callFault? s c result = some fault) (own : fault ≠ .notRegistered) :
    c.Fails sent fault := by
  cases sent with
  | error missing =>
    obtain rfl : result = .error (.unanswered missing.message) := isResult
    cases c <;> cases faulty <;> exact .unanswered _ missing
  | ok response =>
    have keeps : c.KeepsClass response result := isResult
    cases result with
    | ok reply => exact absurd (callFault?_ok faulty) own
    | error remote =>
      cases remote with
      | refused status reason =>
        obtain ⟨⟨failure, calm⟩, rfl, rfl⟩ := (keeps.refused_iff _ _).mp rfl
        cases c <;> cases faulty <;> exact .refused failure calm
      | conflict status reason =>
        obtain ⟨conflict, rfl, rfl⟩ := (keeps.conflict_iff _ _).mp rfl
        cases c with
        | updateRef branch sha =>
          cases faulty
          exact .conflict conflict
        | _ => exact conflict.elim
      | unanswered message => exact absurd rfl (keeps.answered message)
      | unreadable message =>
        obtain ⟨success, undecoded⟩ := keeps.unreadable_iff.mp ⟨message, rfl⟩
        cases c <;> cases faulty <;> exact .unreadable success undecoded message

/-- A call whose response is a conflict is a fault. -/
theorem callFault?_of_conflict {branch sha : String} {response : Response}
    {result : (Call.updateRef branch sha).Result}
    (isResult : (Call.updateRef branch sha).IsResult (.ok response) result)
    (conflict : (Call.updateRef branch sha).IsConflict response) :
    callFault? s (.updateRef branch sha) result = some (.conflict branch response.status) := by
  have keeps : (Call.updateRef branch sha).KeepsClass response result := isResult
  rw [(keeps.conflict_iff _ _).mpr ⟨conflict, rfl, rfl⟩]
  rfl

/-- A call whose response refuses it otherwise is a fault. -/
theorem callFault?_of_refused {response : Response} (isResult : c.IsResult (.ok response) result)
    (failure : ¬response.Succeeds) (calm : ¬c.IsConflict response) :
    callFault? s c result = some (.remote response.status response.reason) := by
  have keeps : c.KeepsClass response result := isResult
  rw [(keeps.refused_iff _ _).mpr ⟨⟨failure, calm⟩, rfl, rfl⟩]
  cases c <;> rfl

/-- A call whose response is a success that cannot be read is a fault. -/
theorem exists_callFault?_of_unreadable {response : Response}
    (isResult : c.IsResult (.ok response) result) (success : response.Succeeds)
    (undecoded : ∀ reply, ¬c.Decodes response reply) :
    ∃ message, callFault? s c result = some (.invalidResponse message) := by
  have keeps : c.KeepsClass response result := isResult
  obtain ⟨message, rfl⟩ := keeps.unreadable_iff.mpr ⟨success, undecoded⟩
  exact ⟨message, by cases c <;> rfl⟩

/-- A fault that calls fail with is one of a call. -/
theorem exists_call_of_fault {token repo workflow : String} {turn : SessionTurn}
    {fault : DeployFault} (faulty : faultOf? s token repo workflow turn = some fault)
    (ofCall : fault.start.isSome = true) :
    ∃ credentials, ∃ c : Call, ∃ result : c.Result, turn = ⟨.call credentials c, result⟩ ∧
      callFault? s c result = some fault := by
  obtain ⟨act, found⟩ := turn
  cases act with
  | call credentials c => exact ⟨credentials, c, found, rfl, faulty⟩
  | pause milliseconds =>
    cases found <;> cases faulty
    cases ofCall
  | enter stage =>
    cases found with
    | true =>
      cases faulty
      cases ofCall
    | false =>
      simp only [faultOf?, cond_false] at faulty
      split at faulty
      · unfold refusal? at faulty
        split at faulty
        · cases faulty
          cases ofCall
        · split at faulty
          · cases faulty
            cases ofCall
          · cases faulty
      · cases faulty
  | _ => cases faulty

end Faults

/-! ## The last entry -/

/-- What the last entry of a session tells of what has become of its calls. -/
structure TellsResponses (sends : Call → Except SendFault Response → Prop)
    (calls : List CallRecord) (last : Option (Level × String)) : Prop where
  /-- It is the line of a conflict exactly if the branch could not be moved for that reason. -/
  conflict_iff : ∀ branch status, last = some (.error, conflictLine branch status) ↔
    ∃ sha response, sends (.updateRef branch sha) (.ok response) ∧ response.status = status ∧
      (response.status = 409 ∨ response.status = 422)
  /-- The branch is the default one of the repository. -/
  moves_default : ∀ branch sha sent, sends (.updateRef branch sha) sent →
    IsDefaultBranch calls branch
  /-- It is the line of a refusal exactly if a response was no success otherwise. -/
  refusal_iff : ∀ status reason, last = some (.error, refusalLine status reason) ↔
    ∃ c response, sends c (.ok response) ∧ ¬response.Succeeds ∧
      ¬c.IsConflict response ∧ response.status = status ∧ response.reason = reason
  /-- It is the line of an answer that cannot be read exactly if the body of a success could not. -/
  unreadable_iff : (∃ message, last = some (.error, unreadableLine message)) ↔
    ∃ c response, sends c (.ok response) ∧ response.Succeeds ∧
      ∀ reply, ¬c.Decodes response reply

section Session

variable {s : Settings} {token repo workflow : String} {busy : Bool} {view : View}
  {world : τ → (deed : Deed) → deed.Answer × τ} {start : τ × Attendance}

/-- The turns of a session that somebody attends. -/
abbrev attendedTurns (s : Settings) (token repo workflow : String) (busy : Bool) (view : View)
    (world : τ → (deed : Deed) → deed.Answer × τ) (start : τ × Attendance) : List SessionTurn :=
  (unlessBusy busy (session s token repo workflow)).history (view.answer world) start

/-- An entry that something failed, at the end of a session, is the line of a fault; if calls fail
with that, one did. -/
theorem exists_fault_of_last {line : String}
    (last : (entriesOf (attendedTurns s token repo workflow busy view world start)).getLast? =
      some (.error, line)) :
    ∃ fault : DeployFault, fault.level = .error ∧ fault.line = line ∧
      (fault.start.isSome = true → ∃ c sent, view.Sends world start
        (attendedTurns s token repo workflow busy view world start) c sent ∧
          c.Fails sent fault) := by
  rcases (last_error_iff s token repo workflow busy (view.answer world) start).mp last with
    ⟨-, rfl⟩ | ⟨turn, member, fault, faulty, level, words⟩
  · exact ⟨.alreadyRunning, rfl, rfl, Bool.noConfusion⟩
  · refine ⟨fault, level, words, fun ofCall => ?_⟩
    obtain ⟨credentials, c, result, rfl, fails⟩ := exists_call_of_fault faulty ofCall
    obtain ⟨sent, sends, isResult⟩ := view.exists_sends world _ start member
    refine ⟨c, sent, sends, fails_of_callFault? isResult fails ?_⟩
    rintro rfl
    cases ofCall

/-- A call that is a fault for what it has sent leaves its entry at the end of the session. -/
theorem last_of_sends {c : Call} {sent : Except SendFault Response}
    (sends : view.Sends world start
      (attendedTurns s token repo workflow busy view world start) c sent) :
    ∃ result : c.Result, c.IsResult sent result ∧ ∀ fault, callFault? s c result = some fault →
      fault.level = .error →
        (entriesOf (attendedTurns s token repo workflow busy view world start)).getLast? =
          some (.error, fault.line) := by
  obtain ⟨credentials, result, member, isResult⟩ := sends.exists_turn
  refine ⟨result, isResult, fun fault faulty level => ?_⟩
  exact (last_error_iff s token repo workflow busy (view.answer world) start).mpr
    (.inr ⟨_, member, fault, faulty, level, rfl⟩)

/-- The branch that an attended session moves is the default one. -/
theorem isDefaultBranch_of_sends {branch sha : String} {sent : Except SendFault Response}
    (sends : view.Sends world start
      (attendedTurns s token repo workflow busy view world start) (.updateRef branch sha) sent) :
    IsDefaultBranch (callsOf (attendedTurns s token repo workflow busy view world start))
      branch := by
  obtain ⟨credentials, result, member, -⟩ := sends.exists_turn
  cases busy with
  | true =>
    have told : _ ∈ tells [(.error, DeployFault.alreadyRunning.line)] := member
    exact (isNote_of_mem_tells told).elim
  | false =>
    have orderly := (session_ends s token repo workflow (view.answer world) start).orderly
    have made : ⟨credentials, .updateRef branch sha, some result⟩ ∈
        callsOf (attendedTurns s token repo workflow false view world start) :=
      List.mem_filterMap.mpr ⟨_, member, rfl⟩
    obtain ⟨earlier, later, split⟩ := List.append_of_mem made
    obtain ⟨isDefault, -⟩ := orderly.threaded earlier _ later split
    rw [split]
    exact isDefault.append _

/-- The last entry of an attended session tells of what has become of its calls. -/
theorem attended_tellsResponses :
    TellsResponses
      (view.Sends world start (attendedTurns s token repo workflow busy view world start))
      (callsOf (attendedTurns s token repo workflow busy view world start))
      (entriesOf (attendedTurns s token repo workflow busy view world start)).getLast? where
  conflict_iff := by
    intro branch status
    constructor
    · intro last
      obtain ⟨fault, level, words, called⟩ := exists_fault_of_last last
      obtain rfl := (line_eq_conflictLine_iff level).mp words
      obtain ⟨c, sent, sends, fails⟩ := called rfl
      cases fails with
      | conflict conflict => exact ⟨_, _, sends, rfl, conflict⟩
    · rintro ⟨sha, response, sends, rfl, conflict⟩
      obtain ⟨result, isResult, last⟩ := last_of_sends sends
      exact last _ (callFault?_of_conflict isResult conflict) rfl
  moves_default := fun branch sha sent => isDefaultBranch_of_sends
  refusal_iff := by
    intro status reason
    constructor
    · intro last
      obtain ⟨fault, level, words, called⟩ := exists_fault_of_last last
      obtain rfl := (line_eq_refusalLine_iff level).mp words
      obtain ⟨c, sent, sends, fails⟩ := called rfl
      cases fails with
      | refused failure calm => exact ⟨c, _, sends, failure, calm, rfl, rfl⟩
    · rintro ⟨c, response, sends, failure, calm, rfl, rfl⟩
      obtain ⟨result, isResult, last⟩ := last_of_sends sends
      exact last _ (callFault?_of_refused isResult failure calm) rfl
  unreadable_iff := by
    constructor
    · rintro ⟨message, last⟩
      obtain ⟨fault, level, words, called⟩ := exists_fault_of_last last
      have worded : ∀ message, fault = .transport message → ∃ sent : SendFault,
          message = sent.message := by
        rintro message rfl
        obtain ⟨c, sent, -, fails⟩ := called rfl
        cases fails with
        | unanswered _ missing => exact ⟨missing, rfl⟩
      obtain rfl := (line_eq_unreadableLine_iff level worded).mp words
      obtain ⟨c, sent, sends, fails⟩ := called rfl
      cases fails with
      | unreadable success undecoded => exact ⟨c, _, sends, success, undecoded⟩
    · rintro ⟨c, response, sends, success, undecoded⟩
      obtain ⟨result, isResult, last⟩ := last_of_sends sends
      obtain ⟨message, faulty⟩ := exists_callFault?_of_unreadable isResult success undecoded
      exact ⟨message, last _ faulty rfl⟩

end Session

/-- What a call results in is what has become of its request, whatever a server answers. The last
entry of a session tells the same of its calls, whatever is answered to the deeds of whoever attends
it, and whenever they interrupt it. -/
theorem responses_keep_class :
    (∀ (τ : Type) (client : Client) (credentials : Credentials) (c : Call)
      (respond : τ → Request → Option Response × τ) (state : τ),
        c.IsResult ((client.send credentials c).play respond state).1
          ((client.call credentials c).play respond state).1) ∧
    ∀ (τ : Type) (s : Settings) (token repo workflow : String) (busy : Bool) (view : View)
      (world : τ → (deed : Deed) → deed.Answer × τ) (start : τ),
        TellsResponses
          (view.Sends world (attendedFrom world start)
            (attendedTurns s token repo workflow busy view world (attendedFrom world start)))
          (callsOf
            (attendedTurns s token repo workflow busy view world (attendedFrom world start)))
          (((((unlessBusy busy (session s token repo workflow)).report view).play world
            start).1.entries.getLast?).map Entry.told) := by
  refine ⟨fun τ client credentials c respond state =>
    client.call_isResult credentials c respond state, ?_⟩
  intro τ s token repo workflow busy view world start
  have shown := (unlessBusy busy (session s token repo workflow)).report_shows view world start
  rw [← List.getLast?_map, shown.entries]
  exact attended_tellsResponses

end Pipewright
