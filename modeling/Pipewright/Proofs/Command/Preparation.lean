import Pipewright.Command.Deploy
import Pipewright.Proofs.Dialogue

/-!
# How a deployment is prepared

Before a deployment starts a session it reads its source, makes the document, tells the issues, and
takes the settings. That takes deeds of few kinds, none of which prints, writes or goes anywhere
(`does_opening`). Whether it comes to a session, and to which one, is a matter of the source, the
options and the settings (`exists_play_opening_iff`): the issues are those of the pipeline itself,
and the names are those of its own jobs.
-/
namespace Pipewright

/-- Whether a deed reads something or notes something. -/
def Deed.IsPreparation : Deed → Prop
  | readFile _ => True
  | readInput => True
  | note _ => True
  | _ => False

namespace Work

section Work

variable {α β γ σ : Type} {among : Deed → Prop} {work : Work α} {next : α → Work β}

/-- What follows work: more of it, unless there is a complaint. -/
def goOn (next : α → Work β) : Except Complaint α → Deeds (Except Complaint β)
  | .ok result => (next result).run
  | .error complaint => .done (.error complaint)

/-- Work and more of it are a dialogue and what follows. -/
theorem run_bind (work : Work α) (next : α → Work β) :
    (work >>= next).run = work.run.bind (goOn next) := by
  refine congrArg (Dialogue.bind work.run) (funext fun result => ?_)
  cases result with
  | ok result => rfl
  | error complaint => rfl

/-- What follows twice may be grouped either way. -/
theorem run_bind_assoc (work : Work α) (next : α → Work β) (last : β → Work γ) :
    (work >>= fun result => next result >>= last).run = ((work >>= next) >>= last).run := by
  rw [run_bind, run_bind, run_bind, Dialogue.bind_assoc]
  refine congrArg _ (funext fun result => ?_)
  cases result with
  | ok result => exact run_bind ..
  | error complaint => rfl

/-- A dialogue that is part of work goes on with its result. -/
theorem run_lift_bind (dialogue : Deeds α) (next : α → Work β) :
    (ExceptT.lift dialogue >>= next).run = dialogue.bind fun result => (next result).run := by
  rw [run_bind]
  change (dialogue.bind fun result => .done (.ok result)).bind (goOn next) = _
  rw [Dialogue.bind_assoc]
  rfl

/-- Work and more of it come to a result when each of them does. -/
theorem play_bind_eq_ok_iff {partner : σ → (d : Deed) → d.Answer × σ} {state : σ} {result : β} :
    ((work >>= next).run.play partner state).1 = .ok result ↔
      ∃ first, (work.run.play partner state).1 = .ok first ∧
        ((next first).run.play partner (work.run.play partner state).2).1 = .ok result := by
  rw [run_bind, Dialogue.play_bind]
  cases (work.run.play partner state).1 with
  | ok first => simp [goOn]
  | error complaint => simp [goOn, Dialogue.play]

/-- One deed and more work come to a result when that does with the answer to the deed. -/
theorem play_deed_bind_eq_ok_iff {partner : σ → (d : Deed) → d.Answer × σ} {state : σ} {d : Deed}
    {next : d.Answer → Work β} {result : β} :
    ((deed d >>= next).run.play partner state).1 = .ok result ↔
      ((next (partner state d).1).run.play partner (partner state d).2).1 = .ok result := by
  rw [play_bind_eq_ok_iff]
  constructor
  · rintro ⟨answer, same, comes⟩
    cases same
    exact comes
  · intro comes
    exact ⟨_, rfl, comes⟩

/-- Work that comes to a result has the deeds of what follows after its own. -/
theorem history_bind_of_ok {partner : σ → (d : Deed) → d.Answer × σ} {state : σ} {result : α}
    (comes : (work.run.play partner state).1 = .ok result) :
    (work >>= next).run.history partner state =
      work.run.history partner state ++
        (next result).run.history partner (work.run.play partner state).2 := by
  rw [run_bind, Dialogue.history_bind, comes]
  rfl

/-- Whether work does deeds of one kind only. -/
def Does (among : Deed → Prop) (work : Work α) : Prop := work.run.AsksOnly among

/-- Work does deeds of one kind only when its beginning and what follows do. -/
theorem Does.bind (first : work.Does among) (later : ∀ result, (next result).Does among) :
    (work >>= next).Does among := by
  rw [Does, run_bind]
  refine Dialogue.AsksOnly.bind first fun result => ?_
  cases result with
  | ok result => exact later result
  | error complaint => exact .done _

/-- One deed is a deed of its kind. -/
theorem does_deed {d : Deed} (isAmong : among d) : (deed d).Does among :=
  .ask isAmong fun _ => .done _

/-- Handing on what a file gives takes no deed. -/
theorem does_withFile (message : String) (result : Except FileFault α) :
    (withFile message result).Does among := by
  cases result <;> exact .done _

end Work

/-! ## Which deeds it takes -/

/-- Reading a source is preparation. -/
theorem does_readSource (path : String) : (readSource path).Does Deed.IsPreparation := by
  unfold readSource
  split
  · exact (does_deed trivial).bind fun _ => does_withFile _ _
  · exact (does_deed trivial).bind fun _ => does_withFile _ _

/-- So is parsing it. -/
theorem does_loadPipeline (path : String) : (loadPipeline path).Does Deed.IsPreparation := by
  refine (does_readSource path).bind fun source => ?_
  cases Pipeline.parse source <;> exact .done _

/-- So is telling issues. -/
theorem does_tellIssues (label : String) (issues : List Issue) :
    (tellIssues label issues).Does Deed.IsPreparation := by
  induction issues with
  | nil => exact .done _
  | cons issue issues ih => exact (does_deed trivial).bind fun _ => ih

/-- So is stopping at them. -/
theorem does_checkIssues (styled skipsLint : Bool) (issues : List Issue) :
    (checkIssues styled skipsLint issues).Does Deed.IsPreparation := by
  unfold checkIssues
  split
  · exact .done _
  · split
    · exact does_tellIssues _ _
    · exact (does_tellIssues _ _).bind fun _ => .done _

/-- So is making the document. -/
theorem does_prepare (styled : Bool) (options : DeployOptions) :
    (prepare styled options).Does Deed.IsPreparation := by
  unfold prepare
  split
  · exact (does_readSource _).bind fun _ => .done _
  · exact (does_loadPipeline _).bind fun _ => (does_checkIssues _ _ _).bind fun _ => .done _

/-- Choosing the session takes no deed. -/
theorem does_chooseSession (env : String → Option String) (apiUrl : Option String)
    (options : DeployOptions) (prepared : Prepared) {among : Deed → Prop} :
    (chooseSession env apiUrl options prepared).Does among := by
  unfold chooseSession
  split
  · exact .done _
  · split
    · refine Does.bind ?_ fun s => .done _
      unfold settings
      split <;> exact .done _
    · exact .done _

/-- Everything that comes before a session. -/
def opening (env : String → Option String) (styled : Bool) (apiUrl : Option String)
    (options : DeployOptions) : Work (Session Outcome × Client) := do
  let prepared ← prepare styled options
  chooseSession env apiUrl options prepared

/-- All of it is preparation. -/
theorem does_opening (env : String → Option String) (styled : Bool) (apiUrl : Option String)
    (options : DeployOptions) : (opening env styled apiUrl options).Does Deed.IsPreparation :=
  (does_prepare styled options).bind fun _ => does_chooseSession env apiUrl options _

/-! ## What it comes to -/

/-- Whether whoever answers deeds has a source for a path: what comes in, or what the file holds. -/
def HasSource {σ : Type} (partner : σ → (d : Deed) → d.Answer × σ) (state : σ)
    (path source : String) : Prop :=
  if isStandardInput path then (partner state .readInput).1 = .ok source
  else (partner state (.readFile path)).1 = .ok source

/-- Whether a source, with options, comes to a document and names of jobs. -/
inductive Prepares (options : DeployOptions) (source : String) : Prepared → Prop where
  /-- A document comes to itself, whatever it says. -/
  | document (isDocument : options.isDocument = true) : Prepares options source ⟨source, []⟩
  /-- A block graph comes to its document and the names of the jobs directly inside its pipeline, if
  that has no issues, or they do not matter. -/
  | graph {pipeline : Option Pipeline} (isGraph : options.isDocument = false)
      (parsed : Pipeline.parse source = .ok pipeline)
      (passes : (∀ p ∈ pipeline, p.issues = []) ∨ options.skipsLint = true) :
      Prepares options source
        ⟨Pipeline.document pipeline, pipeline.elim [] fun p => p.jobs.map Job.name⟩

/-- There are no issues when the pipeline, if there is one, has none. -/
theorem issuesOf_eq_nil_iff (pipeline : Option Pipeline) :
    issuesOf pipeline = [] ↔ ∀ p ∈ pipeline, p.issues = [] := by
  cases pipeline with
  | none => simp [issuesOf]
  | some p => simp [issuesOf]

/-- The names of jobs are those of the jobs directly inside the pipeline, if there is one. -/
theorem jobNames_eq (pipeline : Option Pipeline) :
    jobNames pipeline = pipeline.elim [] fun p => p.jobs.map Job.name := by
  cases pipeline with
  | none => rfl
  | some p => rfl

/-- Whether a session is the one to run for what has been prepared. -/
inductive Chooses (env : String → Option String) (apiUrl : Option String)
    (options : DeployOptions) (prepared : Prepared) : Session Outcome → Prop where
  /-- A dry run walks through the jobs. -/
  | simulated (isDryRun : options.isDryRun = true) :
      Chooses env apiUrl options prepared (Simulation.session prepared.jobs)
  /-- Any other run publishes the document, with settings that are accepted. -/
  | real {s : Settings} {token repo : String} (isReal : options.isDryRun = false)
      (settings : commandSettings env apiUrl = .ok s) (tokenGiven : options.token = some token)
      (repoGiven : options.repo = some repo) :
      Chooses env apiUrl options prepared (Deployment.session s token repo prepared.workflow)

section Play

variable {σ : Type} {partner : σ → (d : Deed) → d.Answer × σ} {state : σ} {source : String}

/-- Handing on what a file gives comes to what it holds. -/
theorem play_withFile_eq_ok_iff (message : String) {given : Except FileFault String} :
    ((withFile message given).run.play partner state).1 = .ok source ↔ given = .ok source := by
  cases given with
  | ok held =>
    constructor
    · intro same
      cases same
      rfl
    · intro same
      cases same
      rfl
  | error fault => exact iff_of_false nofun nofun

/-- A source is read when there is one for the path. -/
theorem play_readSource_eq_ok_iff {path : String} :
    ((readSource path).run.play partner state).1 = .ok source ↔
      HasSource partner state path source := by
  unfold readSource HasSource
  split
  · exact play_deed_bind_eq_ok_iff.trans (play_withFile_eq_ok_iff _)
  · exact play_deed_bind_eq_ok_iff.trans (play_withFile_eq_ok_iff _)

/-- Telling issues ends well. -/
theorem play_tellIssues (label : String) (issues : List Issue) :
    ((tellIssues label issues).run.play partner state).1 = .ok () := by
  induction issues generalizing state with
  | nil => rfl
  | cons issue issues ih => exact play_bind_eq_ok_iff.mpr ⟨(), rfl, ih⟩

/-- A pipeline is loaded when the source that is read parses as it. -/
theorem play_loadPipeline_eq_ok_iff {path : String} {pipeline : Option Pipeline}
    (read : ((readSource path).run.play partner state).1 = .ok source) :
    ((loadPipeline path).run.play partner state).1 = .ok pipeline ↔
      Pipeline.parse source = .ok pipeline := by
  rw [loadPipeline, play_bind_eq_ok_iff, read]
  constructor
  · rintro ⟨_, same, loaded⟩
    cases same
    cases parsed : Pipeline.parse source with
    | ok found =>
      rw [parsed] at loaded
      cases loaded
      rfl
    | error fault =>
      rw [parsed] at loaded
      cases loaded
  · intro parsed
    refine ⟨source, rfl, ?_⟩
    rw [parsed]
    rfl

/-- Issues are passed when there are none, or they do not matter. -/
theorem play_checkIssues_eq_ok_iff (styled skipsLint : Bool) (issues : List Issue) {done : Unit} :
    ((checkIssues styled skipsLint issues).run.play partner state).1 = .ok done ↔
      issues = [] ∨ skipsLint = true := by
  unfold checkIssues
  cases issues with
  | nil => exact iff_of_true rfl (.inl rfl)
  | cons issue issues =>
    rw [if_neg (show (issue :: issues).isEmpty ≠ true from nofun)]
    cases skipsLint with
    | true =>
      rw [if_pos rfl]
      exact iff_of_true (play_tellIssues _ _) (.inr rfl)
    | false =>
      rw [if_neg Bool.false_ne_true, play_bind_eq_ok_iff]
      refine iff_of_false ?_ (by simp)
      rintro ⟨_, -, complained⟩
      cases complained

/-- Settings are those of the command where they are accepted. -/
theorem play_settings_eq_ok_iff {env : String → Option String} {apiUrl : Option String}
    {s : Settings} :
    ((settings env apiUrl).run.play partner state).1 = .ok s ↔
      commandSettings env apiUrl = .ok s := by
  unfold settings
  cases commandSettings env apiUrl with
  | ok found =>
    constructor
    · intro same
      cases same
      rfl
    · intro same
      cases same
      rfl
  | error fault => exact iff_of_false nofun nofun

/-- What is prepared from a source that is read follows from that and from the options. -/
theorem play_prepare_eq_ok_iff (styled : Bool) {options : DeployOptions} {prepared : Prepared}
    (read : ((readSource options.file).run.play partner state).1 = .ok source) :
    ((prepare styled options).run.play partner state).1 = .ok prepared ↔
      Prepares options source prepared := by
  unfold prepare
  cases isDocument : options.isDocument with
  | true =>
    rw [if_pos rfl, play_bind_eq_ok_iff, read]
    constructor
    · rintro ⟨_, same, made⟩
      cases same
      cases made
      exact .document isDocument
    · intro prepares
      cases prepares with
      | document _ => exact ⟨source, rfl, rfl⟩
      | graph isGraph => exact absurd isDocument (Bool.eq_false_iff.mp isGraph)
  | false =>
    rw [if_neg Bool.false_ne_true, play_bind_eq_ok_iff]
    simp only [play_loadPipeline_eq_ok_iff read, play_bind_eq_ok_iff, play_checkIssues_eq_ok_iff,
      issuesOf_eq_nil_iff, jobNames_eq]
    constructor
    · rintro ⟨pipeline, parsed, _, passes, made⟩
      cases made
      exact .graph isDocument parsed passes
    · intro prepares
      cases prepares with
      | document isGiven => exact absurd isGiven (Bool.eq_false_iff.mp isDocument)
      | graph _ parsed passes => exact ⟨_, parsed, (), passes, rfl⟩

/-- A session is chosen when it is the one to run. -/
theorem exists_play_chooseSession_iff {env : String → Option String} {apiUrl : Option String}
    {options : DeployOptions} {prepared : Prepared} {session : Session Outcome} :
    (∃ client, ((chooseSession env apiUrl options prepared).run.play partner state).1 =
        .ok (session, client)) ↔ Chooses env apiUrl options prepared session := by
  unfold chooseSession
  cases isDryRun : options.isDryRun with
  | true =>
    rw [if_pos rfl]
    constructor
    · rintro ⟨client, made⟩
      cases made
      exact .simulated isDryRun
    · intro chooses
      cases chooses with
      | simulated _ => exact ⟨_, rfl⟩
      | real isReal => exact absurd isDryRun (Bool.eq_false_iff.mp isReal)
  | false =>
    rw [if_neg Bool.false_ne_true]
    constructor
    · rintro ⟨client, made⟩
      cases tokenGiven : options.token with
      | none =>
        rw [tokenGiven] at made
        cases made
      | some token =>
        cases repoGiven : options.repo with
        | none =>
          rw [tokenGiven, repoGiven] at made
          cases made
        | some repo =>
          rw [tokenGiven, repoGiven] at made
          obtain ⟨s, accepted, chosen⟩ := play_bind_eq_ok_iff.mp made
          cases chosen
          exact .real isDryRun (play_settings_eq_ok_iff.mp accepted) tokenGiven repoGiven
    · intro chooses
      cases chooses with
      | simulated isGiven => exact absurd isGiven (Bool.eq_false_iff.mp isDryRun)
      | real _ settings tokenGiven repoGiven =>
        rw [tokenGiven, repoGiven]
        exact ⟨_, play_bind_eq_ok_iff.mpr ⟨_, play_settings_eq_ok_iff.mpr settings, rfl⟩⟩

/-- A deployment gets to a session when a source that is read comes to what that one runs for. -/
theorem exists_play_opening_iff {env : String → Option String} {styled : Bool}
    {apiUrl : Option String} {options : DeployOptions} {session : Session Outcome}
    (read : ((readSource options.file).run.play partner state).1 = .ok source) :
    (∃ client, ((opening env styled apiUrl options).run.play partner state).1 =
        .ok (session, client)) ↔
      ∃ prepared, Prepares options source prepared ∧
        Chooses env apiUrl options prepared session := by
  simp only [opening, play_bind_eq_ok_iff, play_prepare_eq_ok_iff styled read]
  rw [exists_comm]
  simp only [exists_and_left, exists_play_chooseSession_iff]

end Play

end Work

end Pipewright
