import EventCatalog.Proofs.Dialogue.Ending

/-!
# Dialogues behind calls

A call may be answered by a dialogue of its own.  What is asked in the end, and how it ends, follows
from what the dialogue in front asks and from how the dialogues behind its calls end.
-/

namespace EventCatalog.Dialogue

variable {Call Inner : Type} {Answer : Call → Type} {Reply : Inner → Type} {α β : Type}

theorem ends_ask_bind {c : Call} {f : Answer c → Dialogue Answer α} {history : History Answer}
    {a : α} :
    ((ask c : Dialogue Answer (Answer c)) >>= f).Ends history a ↔
      ∃ answer rest, history = ⟨c, answer⟩ :: rest ∧ (f answer).Ends rest a :=
  ends_call

/-- A dialogue that goes on with the result of another one ends after the histories of both. -/
theorem ends_bind {m : Dialogue Answer α} {f : α → Dialogue Answer β} {history : History Answer}
    {b : β} :
    (m >>= f).Ends history b ↔
      ∃ a front back, history = front ++ back ∧ m.Ends front a ∧ (f a).Ends back b := by
  induction m generalizing history with
  | done a =>
    change (f a).Ends history b ↔ _
    constructor
    · intro h
      exact ⟨a, [], history, rfl, .done a, h⟩
    · rintro ⟨_, _, back, rfl, hends, hafter⟩
      obtain ⟨rfl, rfl⟩ := ends_done.1 hends
      exact hafter
  | call c next ih =>
    change (call c fun answer ↦ next answer >>= f).Ends history b ↔ _
    simp only [ends_call, ih]
    constructor
    · rintro ⟨answer, rest, rfl, a, front, back, rfl, hends, hafter⟩
      exact ⟨a, ⟨c, answer⟩ :: front, back, rfl, ⟨answer, front, rfl, hends⟩, hafter⟩
    · rintro ⟨a, _, back, rfl, ⟨answer, front, rfl, hends⟩, hafter⟩
      exact ⟨answer, front ++ back, rfl, a, front, back, rfl, hends, hafter⟩

/-- What is asked is asked by the first dialogue, or by the second one after the first has ended. -/
theorem asks_bind {m : Dialogue Answer α} {f : α → Dialogue Answer β} {history : History Answer}
    {asked : Call} :
    (m >>= f).Asks history asked ↔ m.Asks history asked ∨
      ∃ a front back, history = front ++ back ∧ m.Ends front a ∧ (f a).Asks back asked := by
  induction m generalizing history with
  | done a =>
    change (f a).Asks history asked ↔ _
    constructor
    · intro h
      exact .inr ⟨a, [], history, rfl, .done a, h⟩
    · rintro (h | ⟨_, _, back, rfl, hends, hafter⟩)
      · exact absurd h (not_asks_done _ _ _)
      · obtain ⟨rfl, rfl⟩ := ends_done.1 hends
        exact hafter
  | call c next ih =>
    change (call c fun answer ↦ next answer >>= f).Asks history asked ↔ _
    simp only [asks_call, ends_call, ih]
    constructor
    · rintro (hnow | ⟨answer, rest, rfl, hasks | ⟨a, front, back, rfl, hends, hafter⟩⟩)
      · exact .inl (.inl hnow)
      · exact .inl (.inr ⟨answer, rest, rfl, hasks⟩)
      · exact .inr ⟨a, ⟨c, answer⟩ :: front, back, rfl, ⟨answer, front, rfl, hends⟩, hafter⟩
    · rintro ((hnow | ⟨answer, rest, rfl, hasks⟩) |
        ⟨a, _, back, rfl, ⟨answer, front, rfl, hends⟩, hafter⟩)
      · exact .inl hnow
      · exact .inr ⟨answer, rest, rfl, .inl hasks⟩
      · exact .inr ⟨answer, front ++ back, rfl, .inr ⟨a, front, back, rfl, hends, hafter⟩⟩

/-- The calls of a history are carried out by dialogues that end with their answers. -/
inductive CarriedOut (f : (c : Call) → Dialogue Reply (Answer c)) :
    History Answer → History Reply → Prop
  | nil : CarriedOut f [] []
  | cons {c : Call} {answer : Answer c} {steps : History Answer} {part history : History Reply}
      (hpart : (f c).Ends part answer) (hrest : CarriedOut f steps history) :
        CarriedOut f (⟨c, answer⟩ :: steps) (part ++ history)

variable {f : (c : Call) → Dialogue Reply (Answer c)} {steps : History Answer}
  {history : History Reply}

theorem carriedOut_nil : CarriedOut f [] history ↔ history = [] := by
  constructor
  · intro h
    cases h
    rfl
  · rintro rfl
    exact .nil

theorem carriedOut_cons {c : Call} {answer : Answer c} :
    CarriedOut f (⟨c, answer⟩ :: steps) history ↔
      ∃ part rest, history = part ++ rest ∧ (f c).Ends part answer ∧ CarriedOut f steps rest := by
  constructor
  · intro h
    cases h with
    | cons hpart hrest => exact ⟨_, _, rfl, hpart, hrest⟩
  · rintro ⟨part, rest, rfl, hpart, hrest⟩
    exact .cons hpart hrest

theorem carriedOut_append {later : History Answer} :
    CarriedOut f (steps ++ later) history ↔
      ∃ part rest, history = part ++ rest ∧ CarriedOut f steps part ∧ CarriedOut f later rest := by
  induction steps generalizing history with
  | nil =>
    simp only [List.nil_append, carriedOut_nil]
    constructor
    · intro h
      exact ⟨[], history, rfl, rfl, h⟩
    · rintro ⟨_, rest, rfl, rfl, h⟩
      exact h
  | cons step steps ih =>
    obtain ⟨c, answer⟩ := step
    simp only [List.cons_append, carriedOut_cons, ih]
    constructor
    · rintro ⟨first, _, rfl, hfirst, part, rest, rfl, hpart, hrest⟩
      exact ⟨first ++ part, rest, (List.append_assoc _ _ _).symm, ⟨first, part, rfl, hfirst, hpart⟩,
        hrest⟩
    · rintro ⟨_, rest, rfl, ⟨first, part, rfl, hfirst, hpart⟩, hrest⟩
      exact ⟨first, part ++ rest, List.append_assoc _ _ _, hfirst, part, rest, rfl, hpart, hrest⟩

/-- A dialogue ends as it does once its calls were carried out. -/
theorem ends_interpret {m : Dialogue Answer α} {a : α} :
    (m.interpret f).Ends history a ↔ ∃ steps, m.Ends steps a ∧ CarriedOut f steps history := by
  induction m generalizing history with
  | done b =>
    change (done b : Dialogue Reply α).Ends history a ↔ _
    constructor
    · intro h
      obtain ⟨rfl, rfl⟩ := ends_done.1 h
      exact ⟨[], .done a, .nil⟩
    · rintro ⟨steps, hends, hcarried⟩
      obtain ⟨rfl, rfl⟩ := ends_done.1 hends
      rw [carriedOut_nil.1 hcarried]
      exact .done a
  | call c next ih =>
    simp only [interpret, ends_bind, ih, ends_call]
    constructor
    · rintro ⟨answer, front, back, rfl, hfront, steps, hends, hback⟩
      exact ⟨⟨c, answer⟩ :: steps, ⟨answer, steps, rfl, hends⟩, .cons hfront hback⟩
    · rintro ⟨_, ⟨answer, steps, rfl, hends⟩, hcarried⟩
      obtain ⟨front, back, rfl, hfront, hback⟩ := carriedOut_cons.1 hcarried
      exact ⟨answer, front, back, rfl, hfront, steps, hends, hback⟩

/-- What is asked is asked behind a call, once the calls before it were carried out. -/
theorem asks_interpret {m : Dialogue Answer α} {asked : Inner} :
    (m.interpret f).Asks history asked ↔
      ∃ steps c front back, m.Asks steps c ∧ history = front ++ back ∧
        CarriedOut f steps front ∧ (f c).Asks back asked := by
  induction m generalizing history with
  | done b => simp [interpret]
  | call c next ih =>
    simp only [interpret, asks_bind, ih, asks_call]
    constructor
    · rintro (hnow | ⟨answer, part, _, rfl, hpart, steps, later, front, back, hlater, rfl, hcarried,
        hasks⟩)
      · exact ⟨[], c, [], history, .inl ⟨rfl, rfl⟩, rfl, .nil, hnow⟩
      · refine ⟨⟨c, answer⟩ :: steps, later, part ++ front, back, ?_, ?_, .cons hpart hcarried,
          hasks⟩
        · exact .inr ⟨answer, steps, rfl, hlater⟩
        · exact (List.append_assoc part front back).symm
    · rintro ⟨_, later, front, back, ⟨rfl, rfl⟩ | ⟨answer, steps, rfl, hlater⟩, rfl, hcarried,
        hasks⟩
      · rw [carriedOut_nil.1 hcarried]
        exact .inl hasks
      · obtain ⟨part, rest, rfl, hpart, hrest⟩ := carriedOut_cons.1 hcarried
        exact .inr ⟨answer, part, rest ++ back, List.append_assoc part rest back, hpart, steps,
          later, rest, back, hlater, rfl, hrest, hasks⟩

/-- One call, answered in a monad. -/
theorem interpret_ask {m : Type → Type} [Monad m] [LawfulMonad m]
    (g : (c : Inner) → m (Reply c)) (c : Inner) : (ask c).interpret g = g c := by
  simp [ask, interpret]

/-- Dialogues behind calls may be run where the dialogue in front is. -/
theorem interpret_interpret {m : Type → Type} [Monad m] [LawfulMonad m]
    (f : (c : Call) → Dialogue Reply (Answer c)) (g : (c : Inner) → m (Reply c))
    (d : Dialogue Answer α) :
    (d.interpret f).interpret g = d.interpret fun c ↦ (f c).interpret g := by
  induction d with
  | done a => rfl
  | call c next ih =>
    change (bind (f c) fun answer ↦ (next answer).interpret f).interpret g = _
    simp only [interpret_bind, ih, interpret]

end EventCatalog.Dialogue
