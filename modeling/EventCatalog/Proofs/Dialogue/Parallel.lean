import EventCatalog.Dialogue

/-!
# Dialogues in parallel

Two dialogues are parallel when they make the same calls for as long as their partners answer alike,
and end with related results.  What alike answers keep apart then shows in the results alone, and
not even there when related results are equal.
-/

namespace EventCatalog.Dialogue

variable {Call : Type} {Answer : Call → Type} {α β γ δ : Type}
  {alike : (c : Call) → Answer c → Answer c → Prop} {related : α → β → Prop}

/-- The dialogues make the same calls as long as the answers are alike, and their results are
related. -/
inductive Parallel (alike : (c : Call) → Answer c → Answer c → Prop) (related : α → β → Prop) :
    Dialogue Answer α → Dialogue Answer β → Prop
  | done {a : α} {b : β} (h : related a b) : Parallel alike related (done a) (done b)
  | call {c : Call} {next : Answer c → Dialogue Answer α} {other : Answer c → Dialogue Answer β}
      (h : ∀ answer answer', alike c answer answer' →
        Parallel alike related (next answer) (other answer')) :
        Parallel alike related (call c next) (call c other)

/-- A call is parallel to itself, up to its answer. -/
theorem parallel_ask (c : Call) :
    Parallel alike (alike c) (ask c : Dialogue Answer (Answer c)) (ask c) := by
  apply Parallel.call
  intro answer answer' h
  exact .done h

/-- Parallel dialogues stay so when they go on in parallel after related results. -/
theorem Parallel.bind {after : γ → δ → Prop} {m : Dialogue Answer α} {m' : Dialogue Answer β}
    {f : α → Dialogue Answer γ} {f' : β → Dialogue Answer δ} (h : Parallel alike related m m')
    (hf : ∀ a b, related a b → Parallel alike after (f a) (f' b)) :
    Parallel alike after (m >>= f) (m' >>= f') := by
  induction h with
  | done h => exact hf _ _ h
  | call _ ih =>
    apply Parallel.call
    intro answer answer' h
    exact ih answer answer' h

/-- What is made of related results is the last word on parallel dialogues. -/
theorem Parallel.bind_pure {after : γ → δ → Prop} {m : Dialogue Answer α} {m' : Dialogue Answer β}
    {f : α → γ} {f' : β → δ} (h : Parallel alike related m m')
    (hf : ∀ a b, related a b → after (f a) (f' b)) :
    Parallel alike after (m >>= fun a ↦ pure (f a)) (m' >>= fun b ↦ pure (f' b)) := by
  apply h.bind
  intro a b hab
  exact .done (hf a b hab)

end EventCatalog.Dialogue
