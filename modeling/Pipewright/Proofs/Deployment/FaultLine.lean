import Mathlib.Data.List.Nodup
import Pipewright.Http.Exchange
import Pipewright.Proofs.Deployment.ErrorEntry

/-!
# What the last line of a session stands for

A session that a fault ends has the line of that fault for its last entry, and no other session ends
with an entry that something failed (`last_error_iff`). The line of a refused call, of a conflict
and of an answer that cannot be read each tell which of them it was, and with which status, text or
branch: such lines start differently, and the parts of each can be told apart.
-/
namespace Pipewright

open Deployment
open Dialogue (Ensures)

/-! ## Lines -/

/-- The line of a call that was refused with a status, for a reason. -/
def refusalLine (status : Nat) (reason : String) : String :=
  "❌ " ++ ("Error " ++ toString status ++ ": " ++ reason)

/-- The line of a branch that had moved meanwhile, with the status that told so. -/
def conflictLine (branch : String) (status : Nat) : String :=
  "❌ " ++ ("Conflict: branch '" ++ branch
    ++ "' changed while the workflow was being committed (status " ++ toString status
    ++ "). Re-run the deployment to build on the latest commit")

/-- The line of an answer that cannot be read. -/
def unreadableLine (message : String) : String :=
  "❌ " ++ ("Error: invalid response from GitHub: " ++ message)

/-- The line of a fault that makes a session fail is its wording after a cross. -/
theorem line_of_error {fault : DeployFault} (fails : fault.level = .error) :
    fault.line = "❌ " ++ fault.message := by
  rw [DeployFault.line, if_pos fails]

/-! ## Parts of texts -/

/-- Where a character stands first in two texts, it splits them alike. -/
theorem append_cons_inj {α : Type} {c : α} {front front' back back' : List α} (first : c ∉ front)
    (first' : c ∉ front') :
    front ++ c :: back = front' ++ c :: back' ↔ front = front' ∧ back = back' := by
  refine ⟨fun same => ?_, by rintro ⟨rfl, rfl⟩; rfl⟩
  rcases List.append_eq_append_iff.mp same with ⟨between, rfl, rest⟩ | ⟨between, rfl, rest⟩
  · cases between with
    | nil => exact ⟨(List.append_nil front).symm, (List.cons.inj rest).2⟩
    | cons other between =>
      obtain rfl := (List.cons.inj rest).1
      simp at first'
  · cases between with
    | nil => exact ⟨List.append_nil front', (List.cons.inj rest).2.symm⟩
    | cons other between =>
      obtain rfl := (List.cons.inj rest).1
      simp at first

/-- Where a character stands last in two texts, it splits them alike. -/
theorem append_cons_inj_last {α : Type} {c : α} {front front' back back' : List α} (last : c ∉ back)
    (last' : c ∉ back') :
    front ++ c :: back = front' ++ c :: back' ↔ front = front' ∧ back = back' := by
  have reversed := @append_cons_inj α c back.reverse back'.reverse front.reverse front'.reverse
    (mt List.mem_reverse.mp last) (mt List.mem_reverse.mp last')
  rw [List.reverse_inj, List.reverse_inj] at reversed
  rw [← List.reverse_inj]
  simp only [List.reverse_append, List.reverse_cons, List.append_assoc, List.singleton_append]
  rw [reversed, and_comm]

/-! ## Wordings -/

/-- The first characters of a text. -/
def front (text : String) : List Char := text.toList.take 6

/-- A text that is given by its characters has the first of these. -/
theorem front_ofList (cs : List Char) : front (.ofList cs) = cs.take 6 := by
  rw [front, String.toList_ofList]

/-- If they are enough it has them whatever follows. -/
theorem front_ofList_append {cs : List Char} (rest : String) (long : 6 ≤ cs.length) :
    front (.ofList cs ++ rest) = cs.take 6 := by
  rw [front, String.toList_append, String.toList_ofList, List.take_append_of_le_length long]

/-- Two texts start alike if their first characters are the same. -/
theorem front_eq_front {cs ds : List Char} (same : cs.take 6 = ds.take 6) :
    front (.ofList cs) = front (.ofList ds) := by
  rw [front_ofList, front_ofList, same]

/-- So do they if one of them goes on. -/
theorem front_append_eq_front {cs ds : List Char} (rest : String) (long : 6 ≤ cs.length)
    (same : cs.take 6 = ds.take 6) : front (.ofList cs ++ rest) = front (.ofList ds) := by
  rw [front_ofList_append rest long, front_ofList, same]

/-- What is said of credentials that are refused starts in one of two ways. -/
theorem front_credentialFault (fault : CredentialFault) :
    front fault.message = front "API token" ∨ front fault.message = front "Repository" := by
  cases fault with
  | tokenTooShort length =>
    left
    change front ("API token is too short (" ++ _ ++ _ ++ _) = _
    rw [String.append_assoc, String.append_assoc]
    exact front_append_eq_front _ (by decide) rfl
  | tokenTooLong length =>
    left
    change front ("API token is too long (" ++ _ ++ _) = _
    rw [String.append_assoc]
    exact front_append_eq_front _ (by decide) rfl
  | missingToken => exact .inl (front_eq_front rfl)
  | tokenFormat => exact .inl (front_eq_front rfl)
  | _ => exact .inr (front_eq_front rfl)

/-- The start of the wording of a fault that calls fail with. -/
def DeployFault.start : DeployFault → Option String
  | remote _ _ => some "Error "
  | transport _ => some "Error: "
  | invalidResponse _ => some "Error: "
  | conflict _ _ => some "Conflict"
  | _ => none

/-- The starts of the wordings of faults that calls fail with. -/
def callStarts : List String := ["Error ", "Error: ", "Conflict"]

/-- The wording of a fault that calls fail with starts so. -/
theorem front_of_start {fault : DeployFault} {text : String} (start : fault.start = some text) :
    text ∈ callStarts ∧ front fault.message = front text := by
  cases fault with
  | remote status reason =>
    cases start
    refine ⟨by decide, ?_⟩
    change front ("Error " ++ _ ++ _ ++ _) = _
    rw [String.append_assoc, String.append_assoc]
    exact front_append_eq_front _ (by decide) rfl
  | transport message =>
    cases start
    refine ⟨by decide, ?_⟩
    exact front_append_eq_front message (by decide) rfl
  | invalidResponse message =>
    cases start
    refine ⟨by decide, ?_⟩
    exact front_append_eq_front message (by decide) rfl
  | conflict branch status =>
    cases start
    refine ⟨by decide, ?_⟩
    change front ("Conflict: branch '" ++ _ ++ _ ++ _ ++ _) = _
    rw [String.append_assoc, String.append_assoc, String.append_assoc]
    exact front_append_eq_front _ (by decide) rfl
  | _ => cases start

/-- The first characters of these starts. -/
def callFronts : List (List Char) :=
  [['E', 'r', 'r', 'o', 'r', ' '], ['E', 'r', 'r', 'o', 'r', ':'], ['C', 'o', 'n', 'f', 'l', 'i']]

/-- They are the first characters of the starts. -/
theorem map_front_callStarts : callStarts.map front = callFronts := by
  have error : front "Error " = _ := front_ofList _
  have mark : front "Error: " = _ := front_ofList _
  have conflict : front "Conflict" = _ := front_ofList _
  simp only [callStarts, List.map_cons, List.map_nil, error, mark, conflict]
  rfl

/-- A text that is given by its characters starts otherwise if these do. -/
theorem front_not_mem {cs : List Char} (other : cs.take 6 ∉ callFronts) :
    front (.ofList cs) ∉ callStarts.map front := by
  rwa [front_ofList, map_front_callStarts]

/-- The wording of no other fault starts so. -/
theorem front_of_no_start {fault : DeployFault} (start : fault.start = none) :
    front fault.message ∉ callStarts.map front := by
  cases fault with
  | credentials fault =>
    change front fault.message ∉ _
    rcases front_credentialFault fault with token | repository
    · rw [token]
      exact front_not_mem (by decide)
    · rw [repository]
      exact front_not_mem (by decide)
  | remote status reason => cases start
  | transport message => cases start
  | invalidResponse message => cases start
  | conflict branch status => cases start
  | notRegistered =>
    change front ("Workflow file was created but workflow was not found. " ++ _) ∉ _
    rw [front_ofList_append _ (by decide), map_front_callStarts]
    decide
  | _ => exact front_not_mem (by decide)

/-- A fault whose wording starts as that of a call is one that starts so. -/
theorem start_eq_of_front {fault : DeployFault} {text : String} (known : text ∈ callStarts)
    (same : front fault.message = front text) : fault.start = some text := by
  have apart : (callStarts.map front).Nodup := by
    rw [map_front_callStarts]
    decide
  cases start : fault.start with
  | some other =>
    obtain ⟨isStart, own⟩ := front_of_start start
    rw [List.inj_on_of_nodup_map apart isStart known (own.symm.trans same)]
  | none =>
    have listed : front fault.message ∈ callStarts.map front :=
      List.mem_map.mpr ⟨text, known, same.symm⟩
    exact absurd listed (front_of_no_start start)

/-- The wording of a missing response starts in one of two ways. -/
theorem front_sendFault (fault : Http.SendFault) :
    front fault.message = front "builder" ∨ front fault.message = front "error " := by
  cases fault with
  | noAddress => exact .inl (front_eq_front rfl)
  | unusable url =>
    left
    change front ("builder error for url (" ++ _ ++ _) = _
    rw [String.append_assoc]
    exact front_append_eq_front _ (by decide) rfl
  | unanswered url =>
    right
    change front ("error sending request for url (" ++ _ ++ _) = _
    rw [String.append_assoc]
    exact front_append_eq_front _ (by decide) rfl
  | movedTooOften url =>
    right
    change front ("error following redirect for url (" ++ _ ++ _) = _
    rw [String.append_assoc]
    exact front_append_eq_front _ (by decide) rfl

/-! ## Lines of calls -/

/-- The wording of a refusal tells its status and its reason. -/
theorem remote_message_inj {status status' : Nat} {reason reason' : String}
    (same : "Error " ++ toString status ++ ": " ++ reason =
      "Error " ++ toString status' ++ ": " ++ reason') :
    status = status' ∧ reason = reason' := by
  have unmarked (n : Nat) : ':' ∉ (toString n).toList := fun member =>
    absurd (isDigit_of_mem_toString member) (by decide)
  have chars := congrArg String.toList same
  have colon : ": ".toList = [':', ' '] := by decide
  simp only [String.toList_append, List.append_assoc, List.append_cancel_left_eq, colon,
    List.cons_append, List.nil_append] at chars
  obtain ⟨digits, rest⟩ := (append_cons_inj (unmarked _) (unmarked _)).mp chars
  exact ⟨toList_toString_inj.mp digits, String.toList_inj.mp (List.cons.inj rest).2⟩

/-- A text in front of a number that ends with a blank, and the number, can be told apart. -/
theorem blank_number_inj {front front' middle : List Char} {m n : Nat}
    (blank : middle.getLast? = some ' ')
    (same : front ++ middle ++ (toString m).toList = front' ++ middle ++ (toString n).toList) :
    front = front' ∧ m = n := by
  have unmarked (n : Nat) : ' ' ∉ (toString n).toList := fun member =>
    absurd (isDigit_of_mem_toString member) (by decide)
  obtain ⟨before, rfl⟩ := List.getLast?_eq_some_iff.mp blank
  simp only [← List.append_assoc] at same
  simp only [List.append_assoc (_ ++ before), List.singleton_append] at same
  obtain ⟨fronts, digits⟩ := (append_cons_inj_last (unmarked m) (unmarked n)).mp same
  exact ⟨List.append_cancel_right fronts, toList_toString_inj.mp digits⟩

/-- The wording of a conflict tells its branch and its status. -/
theorem conflict_message_inj {branch branch' middle last : String} {status status' : Nat}
    (blank : middle.toList.getLast? = some ' ')
    (same : "Conflict: branch '" ++ branch ++ middle ++ toString status ++ last =
      "Conflict: branch '" ++ branch' ++ middle ++ toString status' ++ last) :
    branch = branch' ∧ status = status' := by
  rw [String.append_left_inj] at same
  have chars := congrArg String.toList same
  simp only [String.toList_append] at chars
  obtain ⟨fronts, statuses⟩ := blank_number_inj blank chars
  exact ⟨String.toList_inj.mp (List.append_cancel_left fronts), statuses⟩

/-- The line of a refusal is that of the fault with its status and its reason only. -/
theorem line_eq_refusalLine_iff {fault : DeployFault} (fails : fault.level = .error)
    {status : Nat} {reason : String} :
    fault.line = refusalLine status reason ↔ fault = .remote status reason := by
  refine ⟨fun same => ?_, by rintro rfl; exact line_of_error fails⟩
  rw [line_of_error fails, refusalLine, String.append_right_inj] at same
  have start : fault.start = some "Error " := by
    refine start_eq_of_front (by decide) ?_
    rw [same]
    exact (front_of_start (rfl : (DeployFault.remote status reason).start = _)).2
  cases fault with
  | remote status' reason' =>
    obtain ⟨rfl, rfl⟩ := remote_message_inj same
    rfl
  | _ => simp [DeployFault.start] at start

/-- The line of a conflict is that of the fault with its branch and its status only. -/
theorem line_eq_conflictLine_iff {fault : DeployFault} (fails : fault.level = .error)
    {branch : String} {status : Nat} :
    fault.line = conflictLine branch status ↔ fault = .conflict branch status := by
  refine ⟨fun same => ?_, by rintro rfl; exact line_of_error fails⟩
  rw [line_of_error fails, conflictLine, String.append_right_inj] at same
  have start : fault.start = some "Conflict" := by
    refine start_eq_of_front (by decide) ?_
    rw [same]
    exact (front_of_start (rfl : (DeployFault.conflict branch status).start = _)).2
  cases fault with
  | conflict branch' status' =>
    have blank : "' changed while the workflow was being committed (status ".toList.getLast? =
        some ' ' := congrArg List.getLast? String.toList_ofList
    obtain ⟨rfl, rfl⟩ := conflict_message_inj blank same
    rfl
  | _ => simp [DeployFault.start] at start

/-- The line of an answer that cannot be read is that of the fault with its message only, where
missing responses are worded as they are over a network. -/
theorem line_eq_unreadableLine_iff {fault : DeployFault} (fails : fault.level = .error)
    (worded : ∀ message, fault = .transport message → ∃ sent : Http.SendFault,
      message = sent.message) {message : String} :
    fault.line = unreadableLine message ↔ fault = .invalidResponse message := by
  refine ⟨fun same => ?_, by rintro rfl; exact line_of_error fails⟩
  rw [line_of_error fails, unreadableLine, String.append_right_inj] at same
  have start : fault.start = some "Error: " := by
    refine start_eq_of_front (by decide) ?_
    rw [same]
    exact (front_of_start (rfl : (DeployFault.invalidResponse message).start = _)).2
  cases fault with
  | transport other =>
    obtain ⟨sent, rfl⟩ := worded other rfl
    have split : "Error: invalid response from GitHub: " =
        "Error: " ++ "invalid response from GitHub: " := by
      have error : "Error: ".toList = _ := String.toList_ofList
      have invalid : "invalid response from GitHub: ".toList = _ := String.toList_ofList
      rw [← String.toList_inj, String.toList_append, error, invalid]
      exact String.toList_ofList
    change "Error: " ++ sent.message = _ at same
    rw [split, String.append_assoc, String.append_right_inj] at same
    have begins : front sent.message = ['i', 'n', 'v', 'a', 'l', 'i'] := by
      rw [same]
      exact front_ofList_append _ (by decide)
    rcases front_sendFault sent with builder | error
    · exact absurd ((front_ofList _).symm.trans (builder.symm.trans begins)) (by decide)
    · exact absurd ((front_ofList _).symm.trans (error.symm.trans begins)) (by decide)
  | invalidResponse other =>
    change "Error: invalid response from GitHub: " ++ other = _ at same
    rw [(String.append_right_inj _).mp same]
  | _ => simp [DeployFault.start] at start

/-! ## The last entry -/

section LastEntry

variable {s : Settings} {token repo workflow line : String} {outcome : Outcome}
  {history : List SessionTurn}

/-- A session that has met a fault ends with its entry. -/
theorem TellsOutcome.last_of_fault (told : TellsOutcome s token repo workflow outcome history)
    {turn : SessionTurn} {fault : DeployFault} (member : turn ∈ history)
    (faulty : faultOf? s token repo workflow turn = some fault) :
    (entriesOf history).getLast? = some (fault.level, fault.line) := by
  obtain ⟨past, later, rfl⟩ := List.append_of_mem member
  obtain ⟨-, rfl⟩ := told.fault_last past turn later fault rfl faulty
  have split : past ++ turn :: tells [(fault.level, fault.line)] =
      (past ++ [turn]) ++ tells [(fault.level, fault.line)] := by simp
  rw [split, entriesOf_append, entriesOf_tells]
  simp

/-- A session that ends with an entry that something failed has met the fault with that line. -/
theorem Closes.exists_fault_of_last (closes : Closes s token repo workflow outcome history)
    (last : (entriesOf history).getLast? = some (.error, line)) :
    ∃ turn ∈ history, ∃ fault, faultOf? s token repo workflow turn = some fault ∧
      fault.level = .error ∧ fault.line = line := by
  cases closes with
  | @halted fault _ halted =>
    obtain ⟨_, _, past, turn, rfl, -, -, faulty⟩ := halted
    rw [entriesOf_append, entriesOf_tells] at last
    have same : (fault.level, fault.line) = (.error, line) := by simpa using last
    obtain ⟨level, words⟩ := Prod.mk.inj same
    exact ⟨turn, by simp, fault, faulty, level, words⟩
  | @unresolved _ past _ _ _ =>
    rw [entriesOf_append, entriesOf_tells] at last
    generalize latestSeen past = latest at last ⊢
    cases latest <;> simp [timeoutEntries] at last
  | collected _ _ =>
    rw [entriesOf_append, entriesOf_tells] at last
    simp [closingEntries, viewEntry] at last

end LastEntry

/-- The last entry of a session is that something failed exactly if the session was refused because
another one was under way, or has met a fault with such an entry. -/
theorem last_error_iff {σ : Type} (s : Settings) (token repo workflow : String) (busy : Bool)
    (partner : σ → (act : Act) → act.Answer × σ) (state : σ) {line : String} :
    (entriesOf ((unlessBusy busy (session s token repo workflow)).history partner state)).getLast? =
        some (.error, line) ↔
      (busy = true ∧ line = DeployFault.alreadyRunning.line) ∨
        ∃ turn ∈ (unlessBusy busy (session s token repo workflow)).history partner state,
          ∃ fault, faultOf? s token repo workflow turn = some fault ∧ fault.level = .error ∧
            fault.line = line := by
  constructor
  · intro last
    cases busy with
    | true =>
      have same : some (Level.error, DeployFault.alreadyRunning.line) = some (.error, line) := last
      cases same
      exact .inl ⟨rfl, rfl⟩
    | false =>
      have closes := (session_closes s token repo workflow).play partner state
      rw [List.nil_append] at closes
      exact .inr (closes.exists_fault_of_last last)
  · rintro (⟨rfl, rfl⟩ | ⟨turn, member, fault, faulty, level, rfl⟩)
    · rfl
    · have told := (ensures_tellsOutcome s token repo workflow busy).play partner state
      rw [List.nil_append] at told
      rw [told.last_of_fault member faulty, level]

end Pipewright
