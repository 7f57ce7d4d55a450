import Pipewright.Dialogue

/-!
# Histories of dialogues

A history is the list of the questions that a dialogue has asked, each with its answer. A condition
on histories and results is ensured by a dialogue when it holds at each of its ends, whatever is
answered on the way. Played with a partner, a dialogue reaches one of its ends, so what it ensures
holds of every partner (`Ensures.play`); and what it ensures can be found part by part, since an
ensured condition of the whole is one of its beginning (`ensures_bind`), and a history of the whole
is one of its beginning and then one of the rest (`history_bind`).

A history can be looked at turn by turn: a condition may hold throughout it, of each turn and what
came before (`Throughout`), and a partner answers each turn from the state in which the turns before
have left it (`answers_throughout`). A dialogue may ask questions of one kind only (`AsksOnly`). It
may also be stopped on the way, where turns have led to what is left of it (`Leads`); what it
ensures is still ensured there (`Ensures.leads`).
-/
namespace Pipewright.Dialogue

variable {Question : Type} {Answer : Question → Type} {α β σ : Type}

/-- A question and its answer. -/
abbrev Turn (Question : Type) (Answer : Question → Type) : Type := (q : Question) × Answer q

/-- The questions that a dialogue asks a partner, with their answers, in order. -/
def history (partner : σ → (q : Question) → Answer q × σ) :
    σ → Dialogue Question Answer α → List (Turn Question Answer)
  | _, done _ => []
  | state, ask q rest =>
    let (answer, state) := partner state q
    ⟨q, answer⟩ :: history partner state (rest answer)

/-- Whether a condition holds at every end of a dialogue that goes on from a history. -/
def Ensures (after : List (Turn Question Answer) → α → Prop) :
    List (Turn Question Answer) → Dialogue Question Answer α → Prop
  | past, done result => after past result
  | past, ask q rest => ∀ answer, Ensures after (past ++ [⟨q, answer⟩]) (rest answer)

/-- At the end of a dialogue, what is ensured holds. -/
@[simp]
theorem ensures_done {after : List (Turn Question Answer) → α → Prop}
    {past : List (Turn Question Answer)} {result : α} :
    Ensures after past (done result) ↔ after past result := Iff.rfl

/-- Before a question, what is ensured is ensured after each of its answers. -/
@[simp]
theorem ensures_ask {after : List (Turn Question Answer) → α → Prop}
    {past : List (Turn Question Answer)} {q : Question}
    {rest : Answer q → Dialogue Question Answer α} :
    Ensures after past (ask q rest) ↔
      ∀ answer, Ensures after (past ++ [⟨q, answer⟩]) (rest answer) := Iff.rfl

/-- What a dialogue ensures together with what goes on after its end, it ensures of that end. -/
theorem ensures_bind {after : List (Turn Question Answer) → β → Prop}
    {past : List (Turn Question Answer)} {dialogue : Dialogue Question Answer α}
    {next : α → Dialogue Question Answer β} :
    Ensures after past (dialogue.bind next) ↔
      Ensures (fun now result => Ensures after now (next result)) past dialogue := by
  induction dialogue generalizing past with
  | done result => rfl
  | ask q rest ih => exact forall_congr' fun answer => ih answer

/-- A dialogue that ensures a condition ensures what follows from it. -/
theorem Ensures.imp {after later : List (Turn Question Answer) → α → Prop}
    {past : List (Turn Question Answer)} {dialogue : Dialogue Question Answer α}
    (ensured : Ensures after past dialogue)
    (follows : ∀ now result, after now result → later now result) :
    Ensures later past dialogue := by
  induction dialogue generalizing past with
  | done result => exact follows _ _ ensured
  | ask q rest ih => exact fun answer => ih answer (ensured answer)

/-- A dialogue ensures that its history goes on from the one before it. -/
theorem Ensures.goes_on {after : List (Turn Question Answer) → α → Prop}
    {past : List (Turn Question Answer)} {dialogue : Dialogue Question Answer α}
    (ensured : Ensures after past dialogue) :
    Ensures (fun now result => after now result ∧ past <+: now) past dialogue := by
  induction dialogue generalizing past with
  | done result => exact ⟨ensured, List.prefix_refl past⟩
  | ask q rest ih =>
    refine fun answer => (ih answer (ensured answer)).imp fun now result held => ?_
    exact ⟨held.1, (List.prefix_append past _).trans held.2⟩

/-- What a dialogue ensures holds of its history and result with any partner. -/
theorem Ensures.play {after : List (Turn Question Answer) → α → Prop}
    {past : List (Turn Question Answer)} {dialogue : Dialogue Question Answer α}
    (ensured : Ensures after past dialogue) (partner : σ → (q : Question) → Answer q × σ)
    (state : σ) :
    after (past ++ dialogue.history partner state) (dialogue.play partner state).1 := by
  induction dialogue generalizing past state with
  | done result => simpa [history, Dialogue.play] using ensured
  | ask q rest ih =>
    have later := ih (partner state q).1 (ensured _) (partner state q).2
    simpa [history, Dialogue.play, List.append_assoc] using later

/-- Played with a partner, a dialogue that ends at once leaves the partner alone. -/
@[simp]
theorem play_pure (partner : σ → (q : Question) → Answer q × σ) (state : σ) (result : α) :
    (pure result : Dialogue Question Answer α).play partner state = (result, state) := rfl

/-- Played with a partner, what goes on after the end of a dialogue starts from where that has left
the partner. -/
theorem play_bind (partner : σ → (q : Question) → Answer q × σ) (state : σ)
    (dialogue : Dialogue Question Answer α) (next : α → Dialogue Question Answer β) :
    (dialogue.bind next).play partner state =
      (next (dialogue.play partner state).1).play partner (dialogue.play partner state).2 := by
  induction dialogue generalizing state with
  | done result => rfl
  | ask q rest ih => exact ih _ _

/-- What goes on after the end of a dialogue asks its questions after those of the dialogue. -/
theorem history_bind (partner : σ → (q : Question) → Answer q × σ) (state : σ)
    (dialogue : Dialogue Question Answer α) (next : α → Dialogue Question Answer β) :
    (dialogue.bind next).history partner state =
      dialogue.history partner state ++
        (next (dialogue.play partner state).1).history partner (dialogue.play partner state).2 := by
  induction dialogue generalizing state with
  | done result => rfl
  | ask q rest ih => exact congrArg (_ :: ·) (ih _ _)

/-- What a dialogue ensures holds at one of its ends, since every question has an answer. -/
theorem Ensures.exists_end [∀ q, Nonempty (Answer q)]
    {after : List (Turn Question Answer) → α → Prop} {past : List (Turn Question Answer)}
    {dialogue : Dialogue Question Answer α} (ensured : Ensures after past dialogue) :
    ∃ later result, after (past ++ later) result := by
  induction dialogue generalizing past with
  | done result => exact ⟨[], result, by rwa [List.append_nil]⟩
  | ask q rest ih =>
    obtain ⟨answer⟩ := (inferInstance : Nonempty (Answer q))
    obtain ⟨later, result, held⟩ := ih answer (ensured answer)
    exact ⟨⟨q, answer⟩ :: later, result, by rwa [List.append_cons]⟩

/-! ## Turn by turn -/

/-- Whether a condition holds of every turn of a history and of the turns before it. -/
def Throughout (holds : List (Turn Question Answer) → Turn Question Answer → Prop)
    (turns : List (Turn Question Answer)) : Prop :=
  ∀ earlier turn later, turns = earlier ++ turn :: later → holds earlier turn

section Throughout

variable {holds : List (Turn Question Answer) → Turn Question Answer → Prop}
  {turns : List (Turn Question Answer)} {turn : Turn Question Answer}

/-- Any condition holds throughout no turns. -/
theorem throughout_nil : Throughout holds [] :=
  fun earlier turn later split => absurd split (by simp)

/-- A condition that holds throughout turns, and of one turn after them, holds throughout all. -/
theorem Throughout.append_one (throughout : Throughout holds turns) (last : holds turns turn) :
    Throughout holds (turns ++ [turn]) := by
  intro earlier other later split
  rcases List.eq_nil_or_concat later with rfl | ⟨between, final, rfl⟩
  · obtain ⟨rfl, same⟩ := List.append_inj' split rfl
    cases same
    exact last
  · have shorter : turns ++ [turn] = (earlier ++ other :: between) ++ [final] := by
      simpa using split
    exact throughout earlier other between (List.append_inj' shorter rfl).1

end Throughout

/-- The state in which turns leave a partner. -/
def stateAfter (partner : σ → (q : Question) → Answer q × σ) :
    σ → List (Turn Question Answer) → σ
  | state, [] => state
  | state, turn :: later => stateAfter partner (partner state turn.1).2 later

/-- Turns after turns go on from the state in which these leave the partner. -/
theorem stateAfter_append (partner : σ → (q : Question) → Answer q × σ) (state : σ)
    (turns later : List (Turn Question Answer)) :
    stateAfter partner state (turns ++ later) =
      stateAfter partner (stateAfter partner state turns) later := by
  induction turns generalizing state with
  | nil => rfl
  | cons turn turns ih => exact ih _

/-- A dialogue leaves a partner where the turns of its history do. -/
theorem stateAfter_history (partner : σ → (q : Question) → Answer q × σ) (state : σ)
    (dialogue : Dialogue Question Answer α) :
    stateAfter partner state (dialogue.history partner state) =
      (dialogue.play partner state).2 := by
  induction dialogue generalizing state with
  | done result => rfl
  | ask q rest ih => exact ih _ _

/-- Every turn of a history is answered from the state in which the turns before it have left the
partner. -/
theorem answers_throughout (dialogue : Dialogue Question Answer α)
    (partner : σ → (q : Question) → Answer q × σ) (state : σ) :
    Throughout (fun earlier turn => turn.2 = (partner (stateAfter partner state earlier) turn.1).1)
      (dialogue.history partner state) := by
  induction dialogue generalizing state with
  | done result => exact throughout_nil
  | ask q rest ih =>
    rintro (_ | ⟨first, earlier⟩) turn later split
    · obtain ⟨rfl, -⟩ := List.cons.inj split
      rfl
    · obtain ⟨rfl, shorter⟩ := List.cons.inj split
      exact ih _ _ earlier turn later shorter

/-! ## Questions of one kind -/

/-- Whether a dialogue asks questions of one kind only, whatever it is answered. -/
inductive AsksOnly (among : Question → Prop) : Dialogue Question Answer α → Prop where
  /-- It asks nothing. -/
  | done (result : α) : AsksOnly among (done result)
  /-- It asks one of them, and then others. -/
  | ask {q : Question} {rest : Answer q → Dialogue Question Answer α} (first : among q)
      (later : ∀ answer, AsksOnly among (rest answer)) : AsksOnly among (ask q rest)

/-- A dialogue asks questions of one kind only if it does so first and then goes on to. -/
theorem AsksOnly.bind {among : Question → Prop} {dialogue : Dialogue Question Answer α}
    {next : α → Dialogue Question Answer β} (first : dialogue.AsksOnly among)
    (later : ∀ result, (next result).AsksOnly among) : (dialogue.bind next).AsksOnly among := by
  induction first with
  | done result => exact later result
  | ask isAmong _ ih => exact .ask isAmong ih

/-- Questions of one kind are questions of every kind that has them all. -/
theorem AsksOnly.imp {among others : Question → Prop} {dialogue : Dialogue Question Answer α}
    (asks : dialogue.AsksOnly among) (has : ∀ q, among q → others q) :
    dialogue.AsksOnly others := by
  induction asks with
  | done result => exact .done result
  | ask isAmong _ ih => exact .ask (has _ isAmong) ih

/-- Every turn of a dialogue that asks questions of one kind only has such a question. -/
theorem AsksOnly.history {among : Question → Prop} {dialogue : Dialogue Question Answer α}
    (asks : dialogue.AsksOnly among) (partner : σ → (q : Question) → Answer q × σ) (state : σ) :
    ∀ turn ∈ dialogue.history partner state, among turn.1 := by
  induction asks generalizing state with
  | done result => exact fun _ none => absurd none List.not_mem_nil
  | ask isAmong _ ih =>
    refine List.forall_mem_cons.mpr ⟨isAmong, ?_⟩
    exact ih _ _

/-! ## On the way -/

/-- Whether turns lead from a dialogue to what is left of it. -/
inductive Leads :
    Dialogue Question Answer α → List (Turn Question Answer) → Dialogue Question Answer α →
      Prop where
  /-- Nothing has been asked. -/
  | unasked (dialogue : Dialogue Question Answer α) : Leads dialogue [] dialogue
  /-- A question has been answered, and the later turns lead on from there. -/
  | answered {q : Question} {rest : Answer q → Dialogue Question Answer α} {answer : Answer q}
      {turns : List (Turn Question Answer)} {left : Dialogue Question Answer α}
      (later : Leads (rest answer) turns left) : Leads (ask q rest) (⟨q, answer⟩ :: turns) left

/-- One more answer leads on. -/
theorem Leads.append_one {dialogue : Dialogue Question Answer α}
    {turns : List (Turn Question Answer)} {q : Question}
    {rest : Answer q → Dialogue Question Answer α} (leads : Leads dialogue turns (ask q rest))
    (answer : Answer q) : Leads dialogue (turns ++ [⟨q, answer⟩]) (rest answer) := by
  generalize asked : ask q rest = left at leads
  induction leads with
  | unasked dialogue =>
    cases asked
    exact .answered (.unasked _)
  | answered later ih => exact .answered (ih asked)

/-- What a dialogue ensures is ensured by what is left of it. -/
theorem Ensures.leads {after : List (Turn Question Answer) → α → Prop}
    {past turns : List (Turn Question Answer)} {dialogue left : Dialogue Question Answer α}
    (ensured : Ensures after past dialogue) (leads : Leads dialogue turns left) :
    Ensures after (past ++ turns) left := by
  induction leads generalizing past with
  | unasked dialogue => rwa [List.append_nil]
  | answered later ih =>
    rw [List.append_cons]
    exact ih (ensured _)

end Pipewright.Dialogue
