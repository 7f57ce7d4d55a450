import Mathlib.Data.List.Forall2
import Pipewright.Proofs.Dialogue

/-!
# Dialogues that go alike

Two dialogues may differ in what their questions carry and still go on alike as long as alike
questions are answered alike (`Alike`). A likeness of questions says which ones those are, and how
the answer to one of them is taken for an answer to the other. Played with partners who keep to it,
dialogues that go alike ask alike questions to their ends and come to alike results (`Alike.play`),
so whatever is hidden by the likeness is in nothing that comes of them.
-/
namespace Pipewright.Dialogue

variable {Question : Type} {Answer : Question → Type} {α β γ δ σ τ : Type}

/-- Which questions are alike, with what the answer to the first one is as an answer to the second
one. -/
abbrev Likeness (Question : Type) (Answer : Question → Type) : Type :=
  (q other : Question) → (Answer q → Answer other) → Prop

/-- Whether two dialogues ask alike questions, as long as these are answered alike, and end with
results of which a relation holds. -/
inductive Alike (like : Likeness Question Answer) (same : α → β → Prop) :
    Dialogue Question Answer α → Dialogue Question Answer β → Prop where
  /-- Both end. -/
  | done {a : α} {b : β} (results : same a b) : Alike like same (.done a) (.done b)
  /-- Both ask, and go on alike with every answer. -/
  | ask {q other : Question} {take : Answer q → Answer other}
      {next : Answer q → Dialogue Question Answer α}
      {nextOther : Answer other → Dialogue Question Answer β} (questions : like q other take)
      (later : ∀ answer, Alike like same (next answer) (nextOther (take answer))) :
      Alike like same (.ask q next) (.ask other nextOther)

section Laws

variable {like : Likeness Question Answer} {same : α → β → Prop} {both : γ → δ → Prop}

/-- Dialogues that go alike and then go on alike with alike results go alike as a whole. -/
theorem Alike.bind {dialogue : Dialogue Question Answer α} {other : Dialogue Question Answer β}
    {next : α → Dialogue Question Answer γ} {nextOther : β → Dialogue Question Answer δ}
    (alike : Alike like same dialogue other)
    (later : ∀ a b, same a b → Alike like both (next a) (nextOther b)) :
    Alike like both (dialogue.bind next) (other.bind nextOther) := by
  induction alike with
  | done results => exact later _ _ results
  | ask questions _ ih => exact .ask questions ih

/-- After dialogues that go alike to the same result it is enough to go on alike with that. -/
theorem Alike.bind_eq {dialogue other : Dialogue Question Answer α}
    {next : α → Dialogue Question Answer γ} {nextOther : α → Dialogue Question Answer δ}
    (alike : Alike like Eq dialogue other)
    (later : ∀ a, Alike like both (next a) (nextOther a)) :
    Alike like both (dialogue.bind next) (other.bind nextOther) :=
  alike.bind fun a _ results => results ▸ later a

/-- A dialogue goes like itself when every question is like itself. -/
theorem Alike.refl {same : α → α → Prop} (questions : ∀ q, like q q id) (results : ∀ a, same a a)
    (dialogue : Dialogue Question Answer α) : Alike like same dialogue dialogue := by
  induction dialogue with
  | done result => exact .done (results result)
  | ask q next ih => exact .ask (questions q) ih

end Laws

/-! ## Partners -/

/-- Whether two turns are alike: the questions are, and so are the answers. -/
def TurnsAlike (like : Likeness Question Answer) (turn other : Turn Question Answer) : Prop :=
  ∃ take, like turn.1 other.1 take ∧ other.2 = take turn.2

/-- Whether two partners answer alike questions alike, and are in alike states after them if they
were before. -/
def AnswerAlike (like : Likeness Question Answer) (alike : σ → τ → Prop)
    (partner : σ → (q : Question) → Answer q × σ) (other : τ → (q : Question) → Answer q × τ) :
    Prop :=
  ∀ a b, alike a b → ∀ q r take, like q r take →
    (other b r).1 = take (partner a q).1 ∧ alike (partner a q).2 (other b r).2

section Partners

variable {like : Likeness Question Answer} {same : α → β → Prop} {alike : σ → τ → Prop}
  {partner : σ → (q : Question) → Answer q × σ} {other : τ → (q : Question) → Answer q × τ}
  {dialogue : Dialogue Question Answer α} {twin : Dialogue Question Answer β} {a : σ} {b : τ}

/-- Dialogues that go alike come to alike results with partners who answer alike. -/
theorem Alike.play (goAlike : Alike like same dialogue twin)
    (answers : AnswerAlike like alike partner other) (states : alike a b) :
    same (dialogue.play partner a).1 (twin.play other b).1 := by
  induction goAlike generalizing a b with
  | done results => exact results
  | ask questions _ ih =>
    obtain ⟨answer, later⟩ := answers _ _ states _ _ _ questions
    have ends := ih (partner a _).1 later
    rw [← answer] at ends
    exact ends

/-- Turn by turn their histories are alike. -/
theorem Alike.history (goAlike : Alike like same dialogue twin)
    (answers : AnswerAlike like alike partner other) (states : alike a b) :
    List.Forall₂ (TurnsAlike like) (dialogue.history partner a) (twin.history other b) := by
  induction goAlike generalizing a b with
  | done results => exact .nil
  | @ask q r take _ _ questions _ ih =>
    obtain ⟨answer, later⟩ := answers _ _ states _ _ _ questions
    have turns := ih (partner a q).1 later
    rw [← answer] at turns
    exact .cons ⟨take, questions, answer⟩ turns

end Partners

/-- What is seen of the turns of two histories is the same when it is the same of alike turns. -/
theorem filterMap_eq_of_alike {like : Likeness Question Answer} {κ : Type}
    {view : Turn Question Answer → Option κ} {turns others : List (Turn Question Answer)}
    (alike : List.Forall₂ (TurnsAlike like) turns others)
    (sees : ∀ turn other, TurnsAlike like turn other → view turn = view other) :
    turns.filterMap view = others.filterMap view := by
  induction alike with
  | nil => rfl
  | cons first _ ih =>
    rw [List.filterMap_cons, List.filterMap_cons, sees _ _ first, ih]

end Pipewright.Dialogue
