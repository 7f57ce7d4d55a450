import Pipewright.Command.Run
import Pipewright.Proofs.Command.Bursts
import Pipewright.Proofs.Command.Preparation

/-!
# Watching a file

A command that watches a file waits for changes and then writes the document again, round by round.
In a world where only waits for changes take time (`Vigil`), it does so once at the end of each wait
that finds a change, and at no other moment (`play_follow`). As waits take the changes burst by
burst, it writes the document again once for each burst (`watch_regenerates`).
-/
namespace Pipewright

/-- What surrounds a command that watches a file: changes of the file to come, the time, and
everything else, which answers all deeds but waits for changes. -/
structure Vigil (σ : Type) where
  /-- Everything else. -/
  rest : σ
  /-- The time, in milliseconds. -/
  time : Nat
  /-- The changes to come. -/
  changes : Changes

namespace Vigil

variable {σ : Type}

/-- Answers a deed. Time passes while changes are waited for, and no other deed takes any; a wait
that would never end is one that is interrupted, and finds no change. -/
def answer (quiet : Nat) (others : Nat → σ → (d : Deed) → d.Answer × σ) (v : Vigil σ) :
    (d : Deed) → d.Answer × Vigil σ
  | .settle _ =>
    match Changes.settle quiet v.time v.changes with
    | none => (false, v)
    | some wait => (wait.changed, { v with time := wait.moment, changes := wait.rest })
  | d => ((others v.time v.rest d).1, { v with rest := (others v.time v.rest d).2 })

end Vigil

/-- Whether a deed is no wait for changes. -/
def Deed.IsImmediate : Deed → Prop
  | settle _ => False
  | _ => True

/-- A dialogue that never waits for changes is answered by everything else, and takes no time. -/
theorem Vigil.play_of_asksOnly {σ α : Type} (quiet : Nat)
    (others : Nat → σ → (d : Deed) → d.Answer × σ) {dialogue : Deeds α}
    (immediate : dialogue.AsksOnly Deed.IsImmediate) (v : Vigil σ) :
    dialogue.play (Vigil.answer quiet others) v =
      ((dialogue.play (others v.time) v.rest).1,
        { v with rest := (dialogue.play (others v.time) v.rest).2 }) := by
  induction immediate generalizing v with
  | done result => rfl
  | @ask d next isImmediate _ ih =>
    cases d with
    | settle path => exact isImmediate.elim
    | _ => exact ih _ _

namespace Work

/-- Whether work never waits for changes. -/
def IsImmediate {α : Type} (work : Work α) : Prop := work.run.AsksOnly Deed.IsImmediate

/-- Preparation takes no waits. -/
theorem Does.isImmediate {α : Type} {work : Work α} (does : work.Does Deed.IsPreparation) :
    work.IsImmediate := by
  refine Dialogue.AsksOnly.imp does fun d isPreparation => ?_
  cases d with
  | settle path => exact isPreparation
  | _ => trivial

/-- Work never waits for changes when neither its beginning nor what follows does. -/
theorem IsImmediate.bind {α β : Type} {work : Work α} {next : α → Work β} (first : work.IsImmediate)
    (later : ∀ result, (next result).IsImmediate) : (work >>= next).IsImmediate :=
  Does.bind first later

/-- Writing a document never waits for changes. -/
theorem isImmediate_writeOutput (output : Option String) (document : String) :
    (writeOutput output document).IsImmediate := by
  cases output with
  | none => exact does_deed trivial
  | some path => exact (does_deed trivial).bind fun _ => does_withFile _ _

/-- Nor does generating it. -/
theorem isImmediate_render (styled : Bool) (input : String) (output : Option String) :
    (render styled input output).IsImmediate :=
  (does_loadPipeline input).isImmediate.bind fun _ =>
    (does_tellIssues _ _).isImmediate.bind fun _ => isImmediate_writeOutput output _

/-- What is noted of a document that was to be written again. -/
def regenerationNote (styled : Bool) (output : Option String) : Except Complaint Unit → String
  | .ok () => Style.green.paint styled "Regenerated" ++ " " ++ output.getD "stdout" ++ "\n"
  | .error complaint => errorLabel styled ++ " " ++ complaint.line ++ "\n"

/-- Writing the document again ends with a note, whatever comes of it. -/
theorem regenerate_run (styled : Bool) (input : String) (output : Option String) :
    (regenerate styled input output).run =
      (render styled input output).run.bind fun result =>
        .ask (.note (regenerationNote styled output result)) fun _ => .done (.ok ()) := by
  change Dialogue.bind (Dialogue.bind (render styled input output).run _) _ = _
  rw [Dialogue.bind_assoc]
  refine congrArg _ (funext fun result => ?_)
  cases result with
  | ok _ => rfl
  | error complaint => rfl

/-- Writing the document again never waits for changes. -/
theorem isImmediate_regenerate (styled : Bool) (input : String) (output : Option String) :
    (regenerate styled input output).IsImmediate := by
  rw [IsImmediate, regenerate_run]
  exact Dialogue.AsksOnly.bind (isImmediate_render styled input output) fun _ =>
    .ask trivial fun _ => .done _

/-- Writing the document again never fails, since a complaint is only noted. -/
theorem play_regenerate {σ : Type} (partner : σ → (d : Deed) → d.Answer × σ) (state : σ)
    (styled : Bool) (input : String) (output : Option String) :
    ((regenerate styled input output).run.play partner state).1 = .ok () := by
  rw [regenerate_run, Dialogue.play_bind]
  rfl

/-- A round waits for changes, and if there are any it is followed by others. -/
theorem follow_succ_run (styled : Bool) (input : String) (output : Option String) (rounds : Nat) :
    (follow styled input output (rounds + 1)).run = .ask (.settle input) fun changed =>
      if changed then
        (regenerate styled input output >>= fun _ => follow styled input output rounds).run
      else .done (.ok ()) := by
  refine congrArg (Dialogue.ask (Deed.settle input)) (funext fun changed => ?_)
  cases changed with
  | true => rfl
  | false => rfl

/-- Everything else after the document has been written again at a moment. -/
def regenerateAt {σ : Type} (others : Nat → σ → (d : Deed) → d.Answer × σ) (styled : Bool)
    (input : String) (output : Option String) (rest : σ) (moment : Nat) : σ :=
  ((regenerate styled input output).run.play (others moment) rest).2

/-- Writing the document again and going on starts from what that has left. -/
theorem play_regenerate_bind {σ : Type} (quiet : Nat)
    (others : Nat → σ → (d : Deed) → d.Answer × σ) (styled : Bool) (input : String)
    (output : Option String) (next : Work Unit) (v : Vigil σ) :
    (regenerate styled input output >>= fun _ => next).run.play (Vigil.answer quiet others) v =
      next.run.play (Vigil.answer quiet others)
        { v with rest := regenerateAt others styled input output v.rest v.time } := by
  have immediate := isImmediate_regenerate styled input output
  have whole := Vigil.play_of_asksOnly quiet others immediate v
  rw [play_regenerate (others v.time) v.rest styled input output] at whole
  change Dialogue.play _ v (Dialogue.bind (regenerate styled input output).run _) = _
  rw [Dialogue.play_bind, whole]
  rfl

/-- The moments at which waits that follow one another find changes. -/
def foundAt (quiet now : Nat) (changes : Changes) : List Nat :=
  ((changes.waits quiet now).filter Settled.changed).map Settled.moment

/-- A command that watches writes the document again once at the end of each wait that finds a
change, if it goes on for that many rounds. -/
theorem play_follow {σ : Type} (quiet : Nat) (others : Nat → σ → (d : Deed) → d.Answer × σ)
    (styled : Bool) (input : String) (output : Option String) (rounds : Nat) (v : Vigil σ)
    (enough : (foundAt quiet v.time v.changes).length < rounds) :
    let played := (follow styled input output rounds).run.play (Vigil.answer quiet others) v
    played.1 = .ok () ∧ played.2.rest =
      (foundAt quiet v.time v.changes).foldl (regenerateAt others styled input output) v.rest := by
  induction rounds generalizing v with
  | zero => exact absurd enough (Nat.not_lt_zero _)
  | succ rounds ih =>
    rw [follow_succ_run, Dialogue.play]
    cases ends : Changes.settle quiet v.time v.changes with
    | none =>
      have answered : Vigil.answer quiet others v (.settle input) = (false, v) := by
        simp [Vigil.answer, ends]
      simp [answered, foundAt, Changes.waits_of_endless ends, Dialogue.play]
    | some wait =>
      have answered : Vigil.answer quiet others v (.settle input) =
          (wait.changed, { v with time := wait.moment, changes := wait.rest }) := by
        simp [Vigil.answer, ends]
      cases changed : wait.changed with
      | false =>
        simp [answered, foundAt, Changes.waits_of_unchanged ends changed, changed, Dialogue.play]
      | true =>
        have found : foundAt quiet v.time v.changes =
            wait.moment :: foundAt quiet wait.moment wait.rest := by
          simp [foundAt, Changes.waits_of_changed ends changed, changed]
        rw [found] at enough ⊢
        have later := ih ⟨regenerateAt others styled input output v.rest wait.moment, wait.moment,
          wait.rest⟩ (Nat.lt_of_succ_lt_succ enough)
        simp only [answered, changed, if_true, play_regenerate_bind]
        exact later

/-- The moments at which changes are found are the ends of the waits for bursts. -/
theorem foundAt_eq {quiet now : Nat} {changes : Changes}
    (schedule : changes.IsSchedule quiet now) :
    foundAt quiet now changes =
      (changes.bursts quiet).map (Changes.burstEnd quiet changes.closing) := by
  have takes (bursts : List (List Nat)) :
      ((Changes.takeBursts quiet changes.closing bursts).filter Settled.changed).map
        Settled.moment = bursts.map (Changes.burstEnd quiet changes.closing) := by
    induction bursts with
    | nil => rfl
    | cons burst later ih => simp [Changes.takeBursts, ih]
  have last : (Changes.lastWait now changes.closing).filter Settled.changed = [] := by
    cases changes.closing <;> rfl
  rw [foundAt, Changes.waits_eq schedule schedule.areBursts, List.filter_append, last,
    List.append_nil, takes]

/-- Waits that follow one another take the changes burst by burst. Each wait for a burst ends so
long after its last change as it has to be quiet, or at once when no more can come, and there is a
wait that finds no change only when there are none left and no more can come. A command that watches
writes the document again at the ends of the waits for bursts and at no other moment, so after every
change, and as far apart as it has to be quiet where more can come. -/
theorem watch_regenerates {quiet now : Nat} {changes : Changes}
    (schedule : changes.IsSchedule quiet now) :
    let bursts := changes.bursts quiet
    let finish := Changes.burstEnd quiet changes.closing
    Changes.AreBursts quiet changes.moments bursts ∧
    changes.waits quiet now =
      Changes.takeBursts quiet changes.closing bursts ++ Changes.lastWait now changes.closing ∧
    (∀ (σ : Type) (others : Nat → σ → (d : Deed) → d.Answer × σ) (rest : σ) (styled : Bool)
      (input : String) (output : Option String) (rounds : Nat), bursts.length < rounds →
        let played :=
          (follow styled input output rounds).run.play (Vigil.answer quiet others)
            ⟨rest, now, changes⟩
        played.1 = .ok () ∧ played.2.rest =
          (bursts.map finish).foldl (regenerateAt others styled input output) rest) ∧
    (∀ burst ∈ bursts, ∀ change ∈ burst, change ≤ finish burst ∧
      (0 < quiet → (∀ moment ∈ changes.closing, change < moment) → change < finish burst)) ∧
    bursts.Pairwise fun burst next =>
      (∀ moment ∈ changes.closing, next.getLastD 0 + quiet ≤ moment) →
        finish burst + quiet ≤ finish next := by
  have areBursts := schedule.areBursts
  refine ⟨areBursts, Changes.waits_eq schedule areBursts, ?_, ?_, ?_⟩
  · intro σ others rest styled input output rounds enough
    have found := foundAt_eq schedule
    have played := play_follow quiet others styled input output rounds ⟨rest, now, changes⟩
      (by rw [found, List.length_map]; exact enough)
    rwa [found] at played
  · exact fun burst among change member => schedule.le_burstEnd among member
  · exact areBursts.apart_burstEnd schedule.ordered changes.closing

/-- Four changes in two bursts, and then no more: the second burst is not waited out. -/
theorem watch_regenerates_twice :
    let changes : Changes := ⟨[0, 200, 1000, 1100], some 1150⟩
    changes.IsSchedule Changes.quietPeriod 0 ∧
      changes.bursts Changes.quietPeriod = [[0, 200], [1000, 1100]] ∧
      changes.waits Changes.quietPeriod 0 =
        [⟨true, 500, ⟨[1000, 1100], some 1150⟩⟩, ⟨true, 1150, ⟨[], some 1150⟩⟩,
          ⟨false, 1150, ⟨[], some 1150⟩⟩] := by
  have schedule : Changes.IsSchedule Changes.quietPeriod 0 ⟨[0, 200, 1000, 1100], some 1150⟩ :=
    ⟨by decide, by decide, by decide, by decide⟩
  exact ⟨schedule, by decide, (watch_regenerates schedule).2.1⟩

end Work

end Pipewright
