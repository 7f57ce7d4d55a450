import Mathlib.Logic.Function.Basic
import Pipewright.Command.Deploy
import Pipewright.Proofs.Json.Reading

/-!
# The address given to a command

A command takes its settings from the environment, and may be given another address of the service.
What the environment gives is checked before that address takes the place of its own. So the given
address counts as if the environment had named it where the environment's settings are accepted as
they are (`commandSettings_of_accepted`), and a variable with an unusable address is refused although
nothing would go there. That is when the two ways differ (`address_overrides_iff`).
-/
namespace Pipewright

open Json (bind_eq_ok)

namespace Settings

variable {s : Settings} {env : String → Option String} {url : String}

/-! ## Addresses -/

/-- Whether a text is an address: it starts with one of two schemes. -/
def IsAddress (url : String) : Prop :=
  startsWith "http://" url = true ∨ startsWith "https://" url = true

/-- A text that starts with another one that is not empty is not empty. -/
theorem ne_empty_of_startsWith {start : String} (starts : startsWith start url = true)
    (nonempty : start.toList ≠ []) : url ≠ "" := by
  rintro rfl
  have nothing : start.toList = [] := List.prefix_nil.mp (List.isPrefixOf_iff_prefix.mp starts)
  exact nonempty nothing

/-- An address is not empty. -/
theorem IsAddress.ne_empty (isAddress : IsAddress url) : url ≠ "" := by
  rcases isAddress with starts | starts
  · exact ne_empty_of_startsWith starts (by decide)
  · exact ne_empty_of_startsWith starts (by decide)

/-- Addresses are what passes the check of one. -/
theorem checkUrl_eq_ok_iff {name : String} : checkUrl name url = .ok () ↔ IsAddress url := by
  unfold checkUrl
  by_cases empty : url = ""
  · rw [if_pos empty]
    exact iff_of_false nofun fun isAddress => isAddress.ne_empty empty
  rw [if_neg empty]
  by_cases starts : (startsWith "http://" url || startsWith "https://" url) = true
  · rw [if_pos starts]
    rw [Bool.or_eq_true] at starts
    exact iff_of_true rfl starts
  · rw [if_neg starts]
    rw [Bool.or_eq_true] at starts
    exact iff_of_false nofun starts

/-! ## Checks -/

/-- What is checked of settings besides the address of the service's interface. -/
def checkOthers (s : Settings) : Except SettingsFault Unit := do
  checkUrl "web_url" s.webUrl
  if isBlank s.workflowPath then .error .emptyWorkflowPath
  if s.maxPollAttempts = 0 then .error .noPollAttempts

/-- Settings pass their check when the address does, and what is checked besides. -/
theorem check_eq_ok_iff : s.check = .ok () ↔ IsAddress s.apiUrl ∧ s.checkOthers = .ok () := by
  have parts : s.check = checkUrl "api_url" s.apiUrl >>= fun _ => s.checkOthers := rfl
  have passes : checkUrl "api_url" s.apiUrl = .ok () ↔ IsAddress s.apiUrl := checkUrl_eq_ok_iff
  rw [parts, bind_eq_ok, ← passes]
  constructor
  · rintro ⟨_, address, others⟩
    exact ⟨address, others⟩
  · rintro ⟨address, others⟩
    exact ⟨(), address, others⟩

/-- Where the address is one, what is checked besides decides. -/
theorem check_of_isAddress (address : IsAddress s.apiUrl) : s.check = s.checkOthers := by
  have parts : s.check = checkUrl "api_url" s.apiUrl >>= fun _ => s.checkOthers := rfl
  rw [parts, checkUrl_eq_ok_iff.mpr address]
  rfl

/-- Settings that pass their check are those that an environment gives. -/
theorem ofEnvironment_eq_ok_iff :
    ofEnvironment env = .ok s ↔ fromEnvironment env = s ∧ s.check = .ok () := by
  rw [ofEnvironment, bind_eq_ok]
  constructor
  · rintro ⟨_, checked, same⟩
    cases same
    exact ⟨rfl, checked⟩
  · rintro ⟨rfl, checked⟩
    exact ⟨(), checked, rfl⟩

/-! ## Another address -/

/-- An environment in which the variable of the address has another value. -/
def naming (env : String → Option String) (url : String) : String → Option String :=
  Function.update env "TRELLIS_API_URL" (some url)

/-- Naming an address in an environment changes the address, and no other setting. -/
theorem fromEnvironment_naming :
    fromEnvironment (naming env url) = (fromEnvironment env).withApiUrl url := by
  have named : naming env url "TRELLIS_API_URL" = some url := Function.update_self ..
  have others {name : String} (other : name ≠ "TRELLIS_API_URL") : naming env url name = env name :=
    Function.update_of_ne other ..
  unfold fromEnvironment withApiUrl
  rw [named, others (by decide), others (by decide), others (by decide), others (by decide),
    others (by decide)]
  rfl

/-- Naming an address after another one is naming it at once. -/
theorem naming_naming (other : String) : naming (naming env other) url = naming env url :=
  Function.update_idem ..

/-- Whether the address that an environment gives is one. -/
def NamesAddress (env : String → Option String) : Prop := IsAddress (fromEnvironment env).apiUrl

/-- An environment that is accepted is accepted with any address. -/
theorem ofEnvironment_naming_eq_ok (other : IsAddress url) (accepted : ofEnvironment env = .ok s) :
    ofEnvironment (naming env url) = .ok (s.withApiUrl url) := by
  obtain ⟨rfl, checked⟩ := ofEnvironment_eq_ok_iff.mp accepted
  have others : (fromEnvironment env).checkOthers = .ok () := (check_eq_ok_iff.mp checked).2
  exact ofEnvironment_eq_ok_iff.mpr ⟨fromEnvironment_naming, check_eq_ok_iff.mpr ⟨other, others⟩⟩

/-- An environment that names an address is refused for the same fault with any other one. -/
theorem ofEnvironment_naming_eq_error {fault : SettingsFault} (address : NamesAddress env)
    (other : IsAddress url) (refused : ofEnvironment env = .error fault) :
    ofEnvironment (naming env url) = .error fault := by
  have checked : (fromEnvironment env).check = ((fromEnvironment env).withApiUrl url).check := by
    rw [check_of_isAddress address, check_of_isAddress other]
    rfl
  rw [ofEnvironment, checked] at refused
  rw [ofEnvironment, fromEnvironment_naming]
  cases result : ((fromEnvironment env).withApiUrl url).check with
  | ok _ =>
    rw [result] at refused
    cases refused
  | error found =>
    rw [result] at refused
    cases refused
    rfl

end Settings
open Settings
variable {s : Settings} {env : String → Option String} {url : String}

/-- Where the environment's own settings are accepted, a given address counts as one that the
environment names. -/
theorem commandSettings_of_accepted (accepted : ofEnvironment env = .ok s) :
    commandSettings env (some url) = ofEnvironment (naming env url) := by
  obtain ⟨rfl, -⟩ := ofEnvironment_eq_ok_iff.mp accepted
  rw [commandSettings, accepted, ofEnvironment, fromEnvironment_naming]
  rfl

/-- Where they are refused, so is the command, whatever address it is given. -/
theorem commandSettings_of_refused {fault : SettingsFault} {apiUrl : Option String}
    (refused : ofEnvironment env = .error fault) : commandSettings env apiUrl = .error fault := by
  rw [commandSettings, refused]
  rfl

/-- A given address is used when the environment that names it would be accepted, and the address
that it takes the place of is one too. -/
theorem commandSettings_eq_ok_iff : commandSettings env (some url) = .ok s ↔
    NamesAddress env ∧ ofEnvironment (naming env url) = .ok s := by
  cases own : ofEnvironment env with
  | ok found =>
    rw [commandSettings_of_accepted own]
    obtain ⟨rfl, checked⟩ := ofEnvironment_eq_ok_iff.mp own
    exact (and_iff_right (check_eq_ok_iff.mp checked).1).symm
  | error fault =>
    rw [commandSettings_of_refused own]
    refine iff_of_false nofun ?_
    -- What is checked besides the address is the same of both.
    rintro ⟨address, named⟩
    obtain ⟨rfl, checked⟩ := ofEnvironment_eq_ok_iff.mp named
    rw [fromEnvironment_naming] at checked
    have others : (fromEnvironment env).checkOthers = .ok () := (check_eq_ok_iff.mp checked).2
    have accepted := ofEnvironment_eq_ok_iff.mpr ⟨rfl, check_eq_ok_iff.mpr ⟨address, others⟩⟩
    rw [own] at accepted
    cases accepted

/-- How an address that is given to a command stands to one that its environment names. -/
structure Overrides (env : String → Option String) (url : String) : Prop where
  /-- It gives the settings that the environment would give if it named that address, as long as what
  the environment names is an address. -/
  accepted_iff : ∀ s, commandSettings env (some url) = .ok s ↔
    NamesAddress env ∧ ofEnvironment (naming env url) = .ok s
  /-- A fault of the environment as it is comes first, and otherwise it is that of the other one. -/
  refused_iff : ∀ fault, commandSettings env (some url) = .error fault ↔
    ofEnvironment env = .error fault ∨
      (∃ s, ofEnvironment env = .ok s) ∧ ofEnvironment (naming env url) = .error fault
  /-- The two come to the same exactly if the environment is accepted as it is, or refused for what
  it would be refused for as well if it named that address. -/
  same_iff : commandSettings env (some url) = ofEnvironment (naming env url) ↔
    (∃ s, ofEnvironment env = .ok s) ∨ ofEnvironment env = ofEnvironment (naming env url)
  /-- Which address the environment names is of no account as long as it is one. -/
  independent : ∀ other, NamesAddress env → IsAddress other →
    commandSettings (naming env other) (some url) = commandSettings env (some url)

/-- A given address takes the place of the one that the environment names, where that is one: with an
unusable address in its place, a command is refused that would have been accepted. -/
theorem address_overrides_iff (env : String → Option String) (url : String) :
    Overrides env url := by
  cases own : ofEnvironment env with
  | ok found =>
    have alike : commandSettings env (some url) = ofEnvironment (naming env url) :=
      commandSettings_of_accepted own
    refine ⟨fun s => commandSettings_eq_ok_iff, fun fault => ?_, ?_, fun other _ isAddress => ?_⟩
    · rw [alike, own]
      exact ⟨fun refused => .inr ⟨⟨found, rfl⟩, refused⟩, fun either => either.elim nofun And.right⟩
    · exact iff_of_true alike (.inl ⟨found, own⟩)
    · have accepted := ofEnvironment_naming_eq_ok isAddress own
      rw [commandSettings_of_accepted accepted, naming_naming, alike]
  | error found =>
    have refused {apiUrl : Option String} : commandSettings env apiUrl = .error found :=
      commandSettings_of_refused own
    refine ⟨fun s => commandSettings_eq_ok_iff, fun fault => ?_, ?_,
      fun other address isAddress => ?_⟩
    · rw [refused, own]
      exact ⟨.inl, fun either => either.elim id fun later => nomatch later.1.choose_spec⟩
    · rw [refused, own]
      exact ⟨.inr, fun either => either.resolve_left fun accepted => nomatch accepted.choose_spec⟩
    · have refusedToo := ofEnvironment_naming_eq_error address isAddress own
      rw [refused, commandSettings_of_refused refusedToo]

/-- A variable without a scheme is refused, although the command is given an address with one. -/
theorem unused_address_refused :
    commandSettings (naming (fun _ => none) "localhost:9000") (some "http://localhost:9000") =
        .error (.badUrlScheme "api_url") ∧
      ofEnvironment (naming (naming (fun _ => none) "localhost:9000") "http://localhost:9000") =
        .ok { apiUrl := "http://localhost:9000" } := by
  decide +kernel

end Pipewright
