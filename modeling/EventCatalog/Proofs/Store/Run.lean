import EventCatalog.Proofs.Dialogue

/-!
# Runs of scripts

What a script makes of a dialogue, call by call.  A call is answered by the reply at the head of the
script, and ends the run when its reply never arrives or when the caller, looking up in the
meantime, finds its token cancelled.

A watched run follows the unwatched one until it is interrupted.  It is interrupted exactly by a
reply that lets the caller look up and that cancels the token or comes behind one that does.
-/

namespace EventCatalog

namespace ScriptedReply

/-- Whether the caller looks up before the answer arrives, if it ever does. -/
def waits (r : ScriptedReply) : Bool := r.pends || r.hangs

/-- The same reply, but that it leaves the token alone. -/
def uncancelling (r : ScriptedReply) : ScriptedReply := { r with cancels := false }

theorem answer_uncancelling (r : ScriptedReply) (c : StoreCall) :
    r.uncancelling.answer c = r.answer c := by
  cases c <;> rfl

theorem headD_map_uncancelling (script : List ScriptedReply) :
    (script.map uncancelling).headD .empty = (script.headD .empty).uncancelling := by
  cases script <;> rfl

/-- The replies that calls consume one after another. -/
def consumed : List StoreCall → List ScriptedReply → List ScriptedReply
  | [], _ => []
  | _ :: calls, script => script.headD .empty :: consumed calls script.tail

/-- Some reply waits that cancels the token or comes behind one that does. -/
def Interrupt (replies : List ScriptedReply) : Prop :=
  ∃ front cancelling back, replies = front ++ cancelling :: back ∧ cancelling.cancels = true ∧
    ∃ r ∈ cancelling :: back, r.waits = true

@[simp]
theorem not_interrupt_nil : ¬Interrupt [] := by
  rintro ⟨front, cancelling, back, hreplies, -⟩
  simp at hreplies

theorem interrupt_cons {r : ScriptedReply} {replies : List ScriptedReply} :
    Interrupt (r :: replies) ↔
      (r.cancels = true ∧ ∃ s ∈ r :: replies, s.waits = true) ∨ Interrupt replies := by
  constructor
  · rintro ⟨front, cancelling, back, hreplies, hcancels, hwaits⟩
    cases front with
    | nil =>
      obtain ⟨rfl, rfl⟩ := List.cons.inj hreplies
      exact .inl ⟨hcancels, hwaits⟩
    | cons first front =>
      obtain ⟨rfl, rfl⟩ := List.cons.inj hreplies
      exact .inr ⟨front, cancelling, back, rfl, hcancels, hwaits⟩
  · rintro (⟨hcancels, hwaits⟩ | ⟨front, cancelling, back, rfl, hcancels, hwaits⟩)
    · exact ⟨[], r, replies, rfl, hcancels, hwaits⟩
    · exact ⟨r :: front, cancelling, back, rfl, hcancels, hwaits⟩

/-- The first reply interrupts a run, or the later ones do, once it has had its say on the token. -/
theorem cancelled_and_waits_or_interrupt_cons {cancelled : Bool} {r : ScriptedReply}
    {replies : List ScriptedReply} :
    ((cancelled = true ∧ ∃ s ∈ r :: replies, s.waits = true) ∨ Interrupt (r :: replies)) ↔
      ((cancelled || r.cancels) && r.waits) = true ∨
        ((cancelled || r.cancels) = true ∧ ∃ s ∈ replies, s.waits = true) ∨
          Interrupt replies := by
  have hwaits : (∃ s ∈ r :: replies, s.waits = true) ↔
      r.waits = true ∨ ∃ s ∈ replies, s.waits = true := by
    simp
  rw [interrupt_cons, ← or_assoc, ← or_and_right, hwaits, and_or_left, or_assoc,
    Bool.and_eq_true, Bool.or_eq_true]

end ScriptedReply

namespace Dialogue

open ScriptedReply

variable {α : Type} {c : StoreCall} {next : c.Answer → Interaction α} {watched cancelled : Bool}
  {script : List ScriptedReply}

/-- A call that the caller gives up. -/
theorem play_call_of_interrupted
    (hcancelled : (cancelled || (script.headD .empty).cancels) = true)
    (hwaits : (script.headD .empty).waits = true) :
    play true cancelled (call c next) script = ⟨[c], .cancelled⟩ := by
  rw [waits] at hwaits
  simp only [play, hcancelled, hwaits, Bool.and_self, if_true]

/-- A call that is never answered and that the caller does not give up. -/
theorem play_call_of_hangs
    (hgoes : (watched && (cancelled || (script.headD .empty).cancels) &&
      (script.headD .empty).waits) = false)
    (hhangs : (script.headD .empty).hangs = true) :
    play watched cancelled (call c next) script = ⟨[c], .stuck⟩ := by
  rw [waits, hhangs, Bool.or_true, Bool.and_true] at hgoes
  simp only [play, hgoes, hhangs, Bool.false_and, Bool.false_eq_true, if_false, if_true]

/-- A call that is answered. -/
theorem play_call_of_answered
    (hgoes : (watched && (cancelled || (script.headD .empty).cancels) &&
      (script.headD .empty).waits) = false)
    (hhangs : (script.headD .empty).hangs = false) :
    play watched cancelled (call c next) script =
      ⟨c :: (play watched (cancelled || (script.headD .empty).cancels)
          (next ((script.headD .empty).answer c)) script.tail).calls,
        (play watched (cancelled || (script.headD .empty).cancels)
          (next ((script.headD .empty).answer c)) script.tail).outcome⟩ := by
  rw [waits, hhangs, Bool.or_false] at hgoes
  simp only [play, hhangs, Bool.or_false, hgoes, Bool.false_eq_true, if_false]

theorem exists_calls_play_call :
    ∃ calls, (play watched cancelled (call c next) script).calls = c :: calls := by
  rw [play]
  split
  · exact ⟨[], rfl⟩
  · split <;> exact ⟨_, rfl⟩

theorem outcome_play_unwatched_ne_cancelled (m : Interaction α) (cancelled : Bool)
    (script : List ScriptedReply) : (play false cancelled m script).outcome ≠ .cancelled := by
  induction m generalizing cancelled script with
  | done a => simp [play]
  | call c next ih =>
    cases hhangs : (script.headD .empty).hangs with
    | true =>
      rw [play_call_of_hangs rfl hhangs]
      simp
    | false =>
      rw [play_call_of_answered rfl hhangs]
      exact ih _ _ _

/-- Where nobody looks at the token, it does not matter who cancels it. -/
theorem play_uncancelling (m : Interaction α) (cancelled ignored : Bool)
    (script : List ScriptedReply) :
    play false cancelled m (script.map uncancelling) = play false ignored m script := by
  induction m generalizing cancelled ignored script with
  | done a => rfl
  | call c next ih =>
    have hhead := headD_map_uncancelling script
    have hhangs := congrArg ScriptedReply.hangs hhead
    cases hkept : (script.headD .empty).hangs with
    | true =>
      rw [play_call_of_hangs rfl hkept, play_call_of_hangs rfl (hhangs.trans hkept)]
    | false =>
      rw [play_call_of_answered rfl hkept, play_call_of_answered rfl (hhangs.trans hkept), hhead,
        answer_uncancelling, ← List.map_tail, ih]

/-- A watched run is the unwatched one, or it is cancelled on its way.  The state of the token that
the unwatched run passes on does not matter. -/
theorem play_watched (m : Interaction α) (cancelled ignored : Bool) (script : List ScriptedReply) :
    play true cancelled m script = play false ignored m script ∨
      (play true cancelled m script).outcome = .cancelled ∧
        (play true cancelled m script).calls ≠ [] ∧
          (play true cancelled m script).calls <+: (play false ignored m script).calls := by
  induction m generalizing cancelled ignored script with
  | done a => exact .inl rfl
  | call c next ih =>
    cases hgoes : (cancelled || (script.headD .empty).cancels) && (script.headD .empty).waits with
    | true =>
      obtain ⟨hcancelled, hwaits⟩ := Bool.and_eq_true_iff.1 hgoes
      obtain ⟨calls, hcalls⟩ : ∃ calls, (play false ignored (call c next) script).calls =
        c :: calls := exists_calls_play_call
      rw [play_call_of_interrupted hcancelled hwaits, hcalls]
      exact .inr ⟨rfl, List.cons_ne_nil _ _, List.cons_prefix_cons.2 ⟨rfl, List.nil_prefix⟩⟩
    | false =>
      cases hhangs : (script.headD .empty).hangs with
      | true =>
        rw [play_call_of_hangs (by rwa [Bool.true_and]) hhangs, play_call_of_hangs rfl hhangs]
        exact .inl rfl
      | false =>
        rw [play_call_of_answered (by rwa [Bool.true_and]) hhangs, play_call_of_answered rfl hhangs]
        refine (ih ((script.headD .empty).answer c) (cancelled || (script.headD .empty).cancels)
          (ignored || (script.headD .empty).cancels) script.tail).imp ?_ ?_
        · intro heq
          rw [heq]
        · rintro ⟨hcancelled, -, hfront⟩
          exact ⟨hcancelled, List.cons_ne_nil _ _, List.cons_prefix_cons.2 ⟨rfl, hfront⟩⟩

/-- A watched run is cancelled exactly by a reply that waits once the token is cancelled. -/
theorem outcome_play_eq_cancelled_iff (m : Interaction α) (cancelled : Bool)
    (script : List ScriptedReply) :
    (play true cancelled m script).outcome = .cancelled ↔
      (cancelled = true ∧
          ∃ r ∈ consumed (play true cancelled m script).calls script, r.waits = true) ∨
        Interrupt (consumed (play true cancelled m script).calls script) := by
  induction m generalizing cancelled script with
  | done a => simp [play, consumed]
  | call c next ih =>
    cases hgoes : (cancelled || (script.headD .empty).cancels) && (script.headD .empty).waits with
    | true =>
      obtain ⟨hcancelled, hwaits⟩ := Bool.and_eq_true_iff.1 hgoes
      rw [play_call_of_interrupted hcancelled hwaits, consumed,
        cancelled_and_waits_or_interrupt_cons, hgoes]
      exact iff_of_true rfl (.inl rfl)
    | false =>
      cases hhangs : (script.headD .empty).hangs with
      | true =>
        rw [play_call_of_hangs (by rwa [Bool.true_and]) hhangs, consumed,
          cancelled_and_waits_or_interrupt_cons, hgoes]
        simp [consumed]
      | false =>
        rw [play_call_of_answered (by rwa [Bool.true_and]) hhangs, consumed,
          cancelled_and_waits_or_interrupt_cons, hgoes, ih]
        simp

end Dialogue

end EventCatalog
