import Pipewright.Command.Attend
import Pipewright.Proofs.Deployment.History

/-!
# What a report shows

Whoever attends a session answers its acts by deeds, and keeps its entries and its run on the side.
What is kept is at any moment what the turns so far show (`Attendance.Shows`), whatever the deeds
are answered. So the report of an attended session shows a history that has led the session to the
outcome that the report names (`ensures_report`), and what holds of every such history holds of
reports.
-/
namespace Pipewright

open Dialogue (Ensures Leads ensures_ask ensures_bind)

/-- What an entry tells, whenever that was. -/
def Entry.told (entry : Entry) : Level × String := (entry.level, entry.message)

/-- Whether a report shows a history: its entries are those that were made, and its run is the one
that was followed last. -/
structure Report.Shows (report : Report) (history : List SessionTurn) : Prop where
  /-- The entries are those that were made. -/
  entries : report.entries.map Entry.told = entriesOf history
  /-- The identifier is that of the run that was followed last. -/
  runId : report.runId = (runOf history).map Prod.fst
  /-- The address is that of the same run. -/
  runUrl : report.runUrl = (runOf history).map Prod.snd

/-- Whether what is kept of an attended session shows a history. -/
structure Attendance.Shows (a : Attendance) (history : List SessionTurn) : Prop where
  /-- The entries are those that were made. -/
  entries : a.entries.map Entry.told = entriesOf history
  /-- The run is the one that was followed last. -/
  run : a.run = runOf history

/-- What deeds and their answers come to. -/
abbrev DeedTurn : Type := Dialogue.Turn Deed Deed.Answer

namespace Attendance

variable {view : View} {a : Attendance} {history : List SessionTurn} {past : List DeedTurn}

/-- Before a session nothing is kept. -/
theorem shows_start : Attendance.start.Shows [] := ⟨rfl, rfl⟩

/-- Cancelling a session changes nothing that is kept of it. -/
theorem Shows.cancel (shows : a.Shows history) :
    ({ a with cancelled := true } : Attendance).Shows history := ⟨shows.entries, shows.run⟩

/-- A turn that makes no entry and follows no run changes nothing that is to be kept. -/
theorem Shows.append_quiet (shows : a.Shows history) {turn : SessionTurn}
    (untold : entry? turn = none) (unfollowed : followed? turn = none) :
    a.Shows (history ++ [turn]) where
  entries := by
    rw [entriesOf_append, shows.entries]
    simp [entriesOf, untold]
  run := by
    rw [runOf, lastOf_append_one, unfollowed]
    exact shows.run

/-- An interruption changes nothing that is kept. -/
theorem ensures_heed (interrupted : Bool) (shows : a.Shows history) :
    Ensures (fun _ (a : Attendance) => a.Shows history) past (a.heed view interrupted) := by
  unfold heed
  split
  · exact fun _ => shows.cancel
  · exact shows

/-- An entry is kept when it is made. -/
theorem ensures_tell (level : Level) (message : String) (shows : a.Shows history) :
    Ensures (fun _ (a : Attendance) => a.Shows (history ++ [⟨.tell level message, ()⟩])) past
      (a.tell view level message) := by
  have kept (moment : Timestamp) :
      Shows { a with entries := a.entries ++ [⟨moment, level, message⟩] }
        (history ++ [⟨.tell level message, ()⟩]) := by
    refine ⟨?_, ?_⟩
    · rw [entriesOf_append, ← shows.entries, List.map_append]
      rfl
    · rw [runOf, lastOf_append_one]
      exact shows.run
  intro moment
  unfold View.present
  split
  · exact fun _ => kept moment
  · exact fun _ => kept moment

/-- An exchange changes nothing that is kept. -/
theorem ensures_exchange {α : Type} (exchange : Http.Exchange α) (shows : a.Shows history) :
    Ensures (fun _ (answer : α × Attendance) => answer.2.Shows history) past
      (a.exchange view exchange) := by
  induction exchange generalizing a past with
  | done result => exact shows
  | ask request next ih =>
    rintro ⟨response, interrupted⟩
    exact ensures_bind.mpr ((ensures_heed interrupted shows).imp fun _ _ shows => ih response shows)

/-- Nor does one that an interruption may cut short. -/
theorem ensures_exchangeUnlessCancelled {α : Type} (exchange : Http.Exchange α)
    (shows : a.Shows history) :
    Ensures (fun _ (answer : Option α × Attendance) => answer.2.Shows history) past
      (a.exchangeUnlessCancelled view exchange) := by
  induction exchange generalizing a past with
  | done result => exact shows
  | ask request next ih =>
    rw [exchangeUnlessCancelled, ensures_ask]
    rintro ⟨response, interrupted⟩
    dsimp only
    split
    · exact ensures_bind.mpr ((ensures_heed interrupted shows).imp fun _ _ shows => shows)
    · exact ih response shows

end Attendance

/-- The deeds that answer an act of an attended session. -/
def Act.attended (view : View) (a : Attendance) : (act : Act) → Deeds (act.Answer × Attendance)
  | .enter _ => .done (a.cancelled, a)
  | .tell level message => (a.tell view level message).bind fun a => .done ((), a)
  | .follow run url => .done ((), { a with run := some (run, url) })
  | .call credentials c => a.exchange view (view.client.call credentials c)
  | .pause milliseconds =>
    if a.cancelled then .done (true, a)
    else
      .ask (.wait milliseconds) fun interrupted =>
        (a.heed view interrupted).bind fun a => .done (interrupted, a)
  | .download credentials job =>
    if a.cancelled then .done (none, a)
    else a.exchangeUnlessCancelled view (view.client.call credentials (.jobLog job))

/-- A session is attended act by act. -/
theorem Session.attend_ask {α : Type} (view : View) (act : Act) (next : act.Answer → Session α)
    (a : Attendance) :
    Session.attend view (.ask act next) a =
      (act.attended view a).bind fun answered => (next answered.1).attend view answered.2 := by
  cases act with
  | enter stage => rfl
  | tell level message =>
    rw [Session.attend, Act.attended, Dialogue.bind_assoc]
    rfl
  | follow run url => rfl
  | call credentials c => rfl
  | pause milliseconds =>
    rw [Session.attend, Act.attended]
    split
    · rfl
    · refine congrArg (Dialogue.ask _) (funext fun interrupted => ?_)
      dsimp only
      rw [Dialogue.bind_assoc]
      rfl
  | download credentials job =>
    rw [Session.attend, Act.attended]
    split
    · rfl
    · rfl

/-- What is kept after an act shows the turn that the act has come to. -/
theorem Act.ensures_attended {view : View} {a : Attendance} {history : List SessionTurn}
    {past : List DeedTurn} (act : Act) (shows : a.Shows history) :
    Ensures (fun _ (answered : act.Answer × Attendance) =>
      answered.2.Shows (history ++ [⟨act, answered.1⟩])) past (act.attended view a) := by
  cases act with
  | enter stage => exact shows.append_quiet rfl rfl
  | tell level message => exact ensures_bind.mpr (Attendance.ensures_tell level message shows)
  | follow run url =>
    refine ⟨?_, ?_⟩
    · rw [entriesOf_append, shows.entries]
      simp [entriesOf, entry?]
    · rw [runOf, lastOf_append_one]
      rfl
  | call credentials c =>
    rw [Act.attended]
    -- Which requests a call takes is of no account here.
    generalize view.client.call credentials c = exchange
    exact (Attendance.ensures_exchange exchange shows).imp
      fun _ _ shows => shows.append_quiet rfl rfl
  | pause milliseconds =>
    rw [Act.attended]
    split
    · exact shows.append_quiet rfl rfl
    · intro interrupted
      rw [ensures_bind]
      exact (Attendance.ensures_heed interrupted shows).imp
        fun _ _ shows => shows.append_quiet rfl rfl
  | download credentials job =>
    rw [Act.attended]
    split
    · exact shows.append_quiet rfl rfl
    · generalize view.client.call credentials (.jobLog job) = exchange
      exact (Attendance.ensures_exchangeUnlessCancelled exchange shows).imp
        fun _ _ shows => shows.append_quiet rfl rfl

/-- What is kept of an attended session in the end shows a history that has led it to its result. -/
theorem Session.ensures_attend {α : Type} {view : View} {whole session : Session α}
    {a : Attendance} {history : List SessionTurn} {past : List DeedTurn}
    (leads : Leads whole history session) (shows : a.Shows history) :
    Ensures (fun _ (ended : α × Attendance) =>
      ∃ now, Leads whole now (.done ended.1) ∧ ended.2.Shows now) past (session.attend view a) := by
  induction session generalizing a history past with
  | done result => exact ⟨history, leads, shows⟩
  | ask act next ih =>
    rw [Session.attend_ask, ensures_bind]
    exact (act.ensures_attended shows).imp
      fun _ answered shows => ih answered.1 (leads.append_one answered.1) shows

/-- The report of an attended session shows a history that has led it to its outcome. -/
theorem Session.ensures_report (view : View) (session : Session Outcome) :
    Ensures (fun _ (report : Report) =>
      ∃ now, Leads session now (.done report.outcome) ∧ report.Shows now) []
      (session.report view) := by
  intro sessionId
  change Ensures _ _ ((session.attend view .start).bind _)
  rw [ensures_bind]
  refine (session.ensures_attend (.unasked _) Attendance.shows_start).imp ?_
  rintro _ ⟨outcome, a⟩ ⟨now, leads, shows⟩
  exact ⟨now, leads, shows.entries, congrArg (Option.map Prod.fst) shows.run,
    congrArg (Option.map Prod.snd) shows.run⟩

end Pipewright
