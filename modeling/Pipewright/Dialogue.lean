/-!
# Dialogues

A dialogue asks questions and goes on with their answers until it ends with a result. Whoever
answers decides what a question means: a service over the network, a script, a clock, a proof that
quantifies over every answer. Every way through the dialogue is finite, so whatever is done with it
is done by recursion on it, and it always ends.
-/
namespace Pipewright

/-- A dialogue of questions, each with its own kind of answer, that ends with a result. -/
inductive Dialogue (Question : Type) (Answer : Question → Type) (α : Type) where
  /-- The end, with a result. -/
  | done (result : α)
  /-- A question, and how the dialogue goes on for each answer. -/
  | ask (question : Question) (next : Answer question → Dialogue Question Answer α)

namespace Dialogue

variable {Question : Type} {Answer : Question → Type} {α β γ : Type}

/-- Goes on after the end of a dialogue with one that depends on its result. -/
def bind (dialogue : Dialogue Question Answer α) (next : α → Dialogue Question Answer β) :
    Dialogue Question Answer β :=
  match dialogue with
  | done result => next result
  | ask question rest => ask question fun answer => (rest answer).bind next

instance : Monad (Dialogue Question Answer) where
  pure := done
  bind := bind

/-- The dialogue of one question, which ends with its answer. -/
def question (q : Question) : Dialogue Question Answer (Answer q) := ask q done

/-- Ending at once and going on is going on at once. -/
@[simp]
theorem bind_done (result : α) (next : α → Dialogue Question Answer β) :
    (done result).bind next = next result := rfl

/-- A question comes before what goes on after the end. -/
@[simp]
theorem bind_ask (q : Question) (rest : Answer q → Dialogue Question Answer α)
    (next : α → Dialogue Question Answer β) :
    (ask q rest).bind next = ask q fun answer => (rest answer).bind next := rfl

/-- Going on twice may be grouped either way. -/
theorem bind_assoc (dialogue : Dialogue Question Answer α)
    (next : α → Dialogue Question Answer β) (last : β → Dialogue Question Answer γ) :
    (dialogue.bind next).bind last = dialogue.bind fun result => (next result).bind last := by
  induction dialogue with
  | done result => rfl
  | ask q rest ih => exact congrArg (ask q) (funext ih)

/-- Plays a dialogue with a partner who answers from a state and changes it. -/
def play {σ : Type} (partner : σ → (q : Question) → Answer q × σ) :
    σ → Dialogue Question Answer α → α × σ
  | state, done result => (result, state)
  | state, ask q rest =>
    let (answer, state) := partner state q
    play partner state (rest answer)

end Dialogue

end Pipewright
