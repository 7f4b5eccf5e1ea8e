import EventCatalog.Proofs.Service.Listing

/-!
# Cancelled listings

A listing under a token is the listing without one until the token is found cancelled.  The caller
looks at the token before the first call and whenever an answer makes it wait, so a token that is
cancelled and never looked at again changes nothing.
-/

namespace EventCatalog

/-- What the caller of a computation is told, if it is told anything. -/
def Outcome.answer? {α : Type} : Outcome (Except EventError α) → Option (Except EventError α)
  | .finished answer => some answer
  | .cancelled => some (.error .cancelled)
  | .stuck => none

theorem Outcome.answer?_eq_cancelled_iff {α : Type} {outcome : Outcome (Except EventError α)} :
    outcome.answer? = some (.error .cancelled) ↔
      outcome = .cancelled ∨ outcome = .finished (.error .cancelled) := by
  cases outcome <;> simp [answer?]

namespace Dialogue

open ScriptedReply

variable {α : Type} {m : Interaction α} {cancelled : Bool} {script : List ScriptedReply}

theorem outcome_runCancellable_eq_cancelled_iff :
    (m.runCancellable cancelled script).outcome = .cancelled ↔
      cancelled = true ∨ Interrupt (consumed (m.runCancellable cancelled script).calls script) := by
  cases cancelled with
  | true => exact iff_of_true rfl (.inl rfl)
  | false =>
    have hplay : m.runCancellable false script = play true false m script := rfl
    rw [hplay, outcome_play_eq_cancelled_iff]
    simp

/-- Under a token, a dialogue runs as without one, or it is given up on its way; at once, if the
token is cancelled from the start. -/
theorem runCancellable_cases :
    m.runCancellable cancelled script = m.run (script.map uncancelling) ∨
      (m.runCancellable cancelled script).outcome = .cancelled ∧
        (m.runCancellable cancelled script).calls <+: (m.run (script.map uncancelling)).calls ∧
          ((m.runCancellable cancelled script).calls = [] ↔ cancelled = true) := by
  cases cancelled with
  | true => exact .inr ⟨rfl, List.nil_prefix, iff_of_true rfl rfl⟩
  | false =>
    have hplay : m.runCancellable false script = play true false m script := rfl
    have hplain : m.run (script.map uncancelling) = play false false m script :=
      play_uncancelling m false false script
    rw [hplay, hplain]
    refine (play_watched m false false script).imp_right ?_
    rintro ⟨hcancelled, hcalls, hfront⟩
    exact ⟨hcancelled, hfront, iff_of_false hcalls Bool.false_ne_true⟩

end Dialogue

namespace Service

open ScriptedReply

variable {settings : PageSettings} {filter : EventFilter} {audience : Audience}
  {script : List ScriptedReply}

/-- A listing itself makes no error of cancellation: it only passes on the one of its rows. -/
theorem outcome_run_list_ne_cancelled (hpage : (script.headD .empty).error ≠ some .cancelled) :
    ((list settings filter audience).run script).outcome ≠ .finished (.error .cancelled) := by
  intro houtcome
  by_cases hrefused : ∃ e, filter.IsRefused audience e
  · obtain ⟨e, he⟩ := hrefused
    rw [run_list_of_isRefused he] at houtcome
    cases houtcome
    exact he.ne_cancelled rfl
  · obtain ⟨plan, -, hchecks⟩ := checks_eq_ok_of_not_isRefused settings
      fun e he ↦ hrefused ⟨e, he⟩
    exact hpage (((run_list_of_plan hchecks).2.2 .cancelled).1 houtcome).2

variable (settings filter audience)

/-- A listing under a token is given up exactly if the token is cancelled from the start, or if some
reply that it consumes makes it wait and cancels the token or comes behind one that does.  Otherwise
it asks and answers what it does without a token.  What it asks before it is given up, it asks
without a token too, and it asks nothing only if the token is cancelled from the start.  No listing
is answered with a cancellation that was not given up, unless the store itself fails with one. -/
theorem runCancellable_list (cancelled : Bool) (script : List ScriptedReply) :
    let watched := (list settings filter audience).runCancellable cancelled script
    let plain := (list settings filter audience).run (script.map uncancelling)
    (watched.outcome = .cancelled ↔
      cancelled = true ∨ Interrupt (consumed watched.calls script)) ∧
    (watched.outcome ≠ .cancelled → watched = plain) ∧
    (watched.outcome = .cancelled →
      watched.calls <+: plain.calls ∧ (watched.calls = [] ↔ cancelled = true)) ∧
    ((script.headD .empty).error ≠ some .cancelled →
      (watched.outcome.answer? = some (.error .cancelled) ↔
        cancelled = true ∨ Interrupt (consumed watched.calls script))) := by
  intro watched plain
  have hiff : watched.outcome = .cancelled ↔
      cancelled = true ∨ Interrupt (consumed watched.calls script) :=
    Dialogue.outcome_runCancellable_eq_cancelled_iff
  have hcases : watched = plain ∨ watched.outcome = .cancelled ∧
      watched.calls <+: plain.calls ∧ (watched.calls = [] ↔ cancelled = true) :=
    Dialogue.runCancellable_cases
  have hplain : watched.outcome ≠ .cancelled → watched = plain :=
    fun h ↦ hcases.resolve_right fun hgiven ↦ h hgiven.1
  refine ⟨hiff, hplain, fun h ↦ ?_, fun hpage ↦ ?_⟩
  · refine (hcases.resolve_left fun heq ↦ ?_).2
    exact Dialogue.outcome_play_unwatched_ne_cancelled _ _ _ (heq ▸ h)
  · rw [Outcome.answer?_eq_cancelled_iff, ← hiff]
    refine or_iff_left_of_imp fun hfinished ↦ Classical.byContradiction fun hkept ↦ ?_
    have herror : ((script.map uncancelling).headD .empty).error ≠ some .cancelled := by
      rwa [headD_map_uncancelling]
    rw [hplain hkept] at hfinished
    exact outcome_run_list_ne_cancelled herror hfinished

/-- A token that is cancelled with the rows is found cancelled while the number of rows is awaited. -/
theorem runCancellable_list_late :
    let watched := (list .standard (.forTenant "tenant") .console).runCancellable false
      [{ empty with cancels := true }, { empty with pends := true }]
    watched.outcome = .cancelled ∧ watched.calls.length = 2 := by
  intro watched
  have hinterrupt : Interrupt (consumed watched.calls
      [{ empty with cancels := true }, { empty with pends := true }]) :=
    ⟨[], { empty with cancels := true }, [{ empty with pends := true }], rfl, rfl,
      { empty with pends := true }, by simp, rfl⟩
  exact ⟨(runCancellable_list .standard (.forTenant "tenant") .console false _).1.2
    (.inr hinterrupt), rfl⟩

end Service

end EventCatalog
