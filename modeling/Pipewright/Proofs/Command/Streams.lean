import Pipewright.Proofs.Deployment.Attended

/-!
# The two streams of a command

A command prints to the standard output and notes things on the standard error stream; what has been
shown on each of them is read off the turns (`textsOn`). An attended session shows each entry once,
when it is made and at the moment that the world tells, and shows nothing else but that it has heeded
an interruption. So the lines of its entries are all that it prints, or, where they go to the error
stream, it prints nothing (`Session.ensures_displays`).
-/
namespace Pipewright

open Dialogue (Ensures ensures_ask ensures_bind)

/-- The text that a deed shows, and whether that is on the standard error stream. -/
def printed? : DeedTurn → Option (Bool × String)
  | ⟨.print text, _⟩ => some (false, text)
  | ⟨.note text, _⟩ => some (true, text)
  | _ => none

/-- The text that a deed shows on one of the two streams. -/
def shownOn? (onErrorStream : Bool) (turn : DeedTurn) : Option String :=
  match printed? turn with
  | some (stream, text) => if stream = onErrorStream then some text else none
  | none => none

/-- The texts that have been shown on one of the two streams, in order. -/
def textsOn (onErrorStream : Bool) (turns : List DeedTurn) : List String :=
  turns.filterMap (shownOn? onErrorStream)

/-- All that has been printed to the standard output. -/
def outputOf (turns : List DeedTurn) : String := String.join (textsOn false turns)

/-- Later texts are shown after earlier ones. -/
@[simp]
theorem textsOn_append (onErrorStream : Bool) (turns later : List DeedTurn) :
    textsOn onErrorStream (turns ++ later) =
      textsOn onErrorStream turns ++ textsOn onErrorStream later :=
  List.filterMap_append

/-- A deed that shows nothing shows nothing on either stream. -/
theorem shownOn?_of_quiet {turn : DeedTurn} (quiet : printed? turn = none) (onErrorStream : Bool) :
    shownOn? onErrorStream turn = none := by
  rw [shownOn?, quiet]

/-! ## Entries -/

/-- Whether turns display entries in a view. -/
structure View.Displays (view : View) (entries : List Entry) (turns : List DeedTurn) : Prop where
  /-- Their lines are all that is printed, unless they go to the error stream: then nothing is. -/
  output : textsOn false turns = if view.onErrorStream then [] else entries.map view.line
  /-- Their lines are shown in order on the stream that they go to. -/
  lines : (entries.map view.line).Sublist (textsOn view.onErrorStream turns)
  /-- The moment of each is one that was told. -/
  moments : ∀ entry ∈ entries, ⟨.now, entry.timestamp⟩ ∈ turns

namespace View

variable {view : View} {entries : List Entry} {turns : List DeedTurn}

/-- Nothing displays no entries. -/
theorem displays_nil (view : View) : view.Displays [] [] where
  output := by simp [textsOn]
  lines := List.nil_sublist _
  moments _ none := absurd none List.not_mem_nil

/-- Turns that print nothing display what was displayed before them. -/
theorem Displays.append (displays : view.Displays entries turns) {later : List DeedTurn}
    (unprinted : textsOn false later = []) : view.Displays entries (turns ++ later) where
  output := by rw [textsOn_append, unprinted, List.append_nil, displays.output]
  lines := by
    rw [textsOn_append]
    exact displays.lines.trans (List.sublist_append_left _ _)
  moments entry among := List.mem_append_left _ (displays.moments entry among)

/-- So does a turn that shows nothing. -/
theorem Displays.append_quiet (displays : view.Displays entries turns) {turn : DeedTurn}
    (quiet : printed? turn = none) : view.Displays entries (turns ++ [turn]) := by
  apply displays.append
  rw [textsOn, List.filterMap_cons_none (shownOn?_of_quiet quiet false), List.filterMap_nil]

/-- And one that notes something. -/
theorem Displays.append_note (displays : view.Displays entries turns) (text : String) :
    view.Displays entries (turns ++ [⟨.note text, ()⟩]) := displays.append rfl

/-- A turn that shows the line of an entry displays it, if its moment was told. -/
theorem Displays.append_line (displays : view.Displays entries turns) {entry : Entry}
    (told : ⟨.now, entry.timestamp⟩ ∈ turns) {turn : DeedTurn}
    (shown : printed? turn = some (view.onErrorStream, view.line entry)) :
    view.Displays (entries ++ [entry]) (turns ++ [turn]) where
  output := by
    have printed : textsOn false [turn] = if view.onErrorStream then [] else [view.line entry] := by
      cases stream : view.onErrorStream <;> simp [textsOn, shownOn?, shown, stream]
    rw [textsOn_append, displays.output, printed]
    split
    · rfl
    · rw [List.map_append, List.map_singleton]
  lines := by
    have line : textsOn view.onErrorStream [turn] = [view.line entry] := by
      simp [textsOn, shownOn?, shown]
    rw [List.map_append, textsOn_append, line]
    exact displays.lines.append (List.Sublist.refl _)
  moments e among := by
    apply List.mem_append_left
    rcases List.mem_append.mp among with earlier | last
    · exact displays.moments e earlier
    · rw [List.mem_singleton.mp last]
      exact told

/-- So an entry is displayed by presenting it. -/
theorem Displays.present (displays : view.Displays entries turns) {entry : Entry}
    (told : ⟨.now, entry.timestamp⟩ ∈ turns) :
    Ensures (fun now _ => view.Displays (entries ++ [entry]) now) turns (view.present entry) := by
  unfold View.present
  split
  · rename_i stream
    exact fun _ => displays.append_line told (by rw [stream]; rfl)
  · rename_i stream
    exact fun _ => displays.append_line told (by rw [Bool.eq_false_iff.mpr stream]; rfl)

/-! ## Attended sessions -/

section Attended

variable {a : Attendance}

/-- Heeding an interruption keeps what is displayed. -/
theorem Displays.heed (displays : view.Displays a.entries turns) (interrupted : Bool) :
    Ensures (fun now (a : Attendance) => view.Displays a.entries now) turns
      (a.heed view interrupted) := by
  unfold Attendance.heed
  split
  · exact fun _ => displays.append_note _
  · exact displays

/-- An entry is displayed when it is made. -/
theorem Displays.tell (displays : view.Displays a.entries turns) (level : Level)
    (message : String) :
    Ensures (fun now (a : Attendance) => view.Displays a.entries now) turns
      (a.tell view level message) := by
  intro moment
  have later : view.Displays a.entries (turns ++ [⟨.now, moment⟩]) := displays.append_quiet rfl
  have told : (⟨.now, moment⟩ : DeedTurn) ∈ turns ++ [⟨.now, moment⟩] :=
    List.mem_append_right _ List.mem_cons_self
  have presented : Ensures
      (fun now _ => view.Displays (a.entries ++ [⟨moment, level, message⟩]) now)
      (turns ++ [⟨.now, moment⟩]) (view.present ⟨moment, level, message⟩) := later.present told
  change Ensures _ _ ((view.present ⟨moment, level, message⟩).bind _)
  exact ensures_bind.mpr presented

/-- An exchange keeps what is displayed. -/
theorem Displays.exchange {α : Type} (displays : view.Displays a.entries turns)
    (exchange : Http.Exchange α) :
    Ensures (fun now (answer : α × Attendance) => view.Displays answer.2.entries now) turns
      (a.exchange view exchange) := by
  induction exchange generalizing a turns with
  | done result => exact displays
  | ask request next ih =>
    intro answer
    have asked : view.Displays a.entries (turns ++ [⟨.request request, answer⟩]) :=
      displays.append_quiet rfl
    exact ensures_bind.mpr ((asked.heed answer.2).imp fun _ _ kept => ih answer.1 kept)

/-- So does one that an interruption may cut short. -/
theorem Displays.exchangeUnlessCancelled {α : Type} (displays : view.Displays a.entries turns)
    (exchange : Http.Exchange α) :
    Ensures (fun now (answer : Option α × Attendance) => view.Displays answer.2.entries now) turns
      (a.exchangeUnlessCancelled view exchange) := by
  induction exchange generalizing a turns with
  | done result => exact displays
  | ask request next ih =>
    rw [Attendance.exchangeUnlessCancelled, ensures_ask]
    intro answer
    have asked : view.Displays a.entries (turns ++ [⟨.request request, answer⟩]) :=
      displays.append_quiet rfl
    dsimp only
    split
    · exact ensures_bind.mpr ((asked.heed answer.2).imp fun _ _ kept => kept)
    · exact ih answer.1 asked

/-- The deeds that answer an act display the entry that it makes, if any. -/
theorem Displays.attended (displays : view.Displays a.entries turns) (act : Act) :
    Ensures (fun now (answered : act.Answer × Attendance) =>
      view.Displays answered.2.entries now) turns (act.attended view a) := by
  cases act with
  | enter stage => exact displays
  | tell level message => exact ensures_bind.mpr (displays.tell level message)
  | follow run url => exact displays
  | call credentials c =>
    rw [Act.attended]
    -- Which requests a call takes is of no account here.
    generalize view.client.call credentials c = exchange
    exact displays.exchange exchange
  | pause milliseconds =>
    rw [Act.attended]
    split
    · exact displays
    · intro interrupted
      have waited : view.Displays a.entries (turns ++ [⟨.wait milliseconds, interrupted⟩]) :=
        displays.append_quiet rfl
      exact ensures_bind.mpr (waited.heed interrupted)
  | download credentials job =>
    rw [Act.attended]
    split
    · exact displays
    · generalize view.client.call credentials (.jobLog job) = exchange
      exact displays.exchangeUnlessCancelled exchange

/-- An attended session displays its entries. -/
theorem Displays.attend {α : Type} (displays : view.Displays a.entries turns)
    (session : Session α) :
    Ensures (fun now (ended : α × Attendance) => view.Displays ended.2.entries now) turns
      (session.attend view a) := by
  induction session generalizing a turns with
  | done result => exact displays
  | ask act next ih =>
    rw [Session.attend_ask, ensures_bind]
    exact (displays.attended act).imp fun _ answered kept => ih answered.1 kept

end Attended

end View

/-- An attended session has displayed the entries of its report. -/
theorem Session.ensures_displays (view : View) (session : Session Outcome) :
    Ensures (fun now (report : Report) => view.Displays report.entries now) []
      (session.report view) := by
  intro sessionId
  have displays : view.Displays Attendance.start.entries ([] ++ [⟨.newSession, sessionId⟩]) :=
    view.displays_nil.append_quiet rfl
  change Ensures _ _ ((session.attend view .start).bind _)
  exact ensures_bind.mpr ((displays.attend session).imp fun _ _ kept => kept)

end Pipewright
