import EventCatalog.Proofs.Retry
import Mathlib.Order.Bounds.Basic

/-!
# Retrying along outcomes

Where the outcome of each attempt is given beforehand, retrying goes on up to the first one that is
a success or a failure for good, or until the retries are used up.  The waits between the attempts
are the first ones of the policy, as they are before any of them is cut down.
-/

namespace EventCatalog

/-- The calls of a dialogue of retries in their order; `outcome` gives the outcome of each attempt,
and `made` attempts were made before. -/
def RetryHistory.calls (outcome : Nat → Except ε α) :
    (made : Nat) → Dialogue (RetryCall.Answer ε α) β → List RetryCall
  | _, .done _ => []
  | made, .call .attempt next => .attempt :: calls outcome (made + 1) (next (outcome made))
  | made, .call (.wait d) next => .wait d :: calls outcome made (next ())

namespace RetryPolicy

open Dialogue (onSuccess)

variable {ε α : Type}

/-- Whether no other attempt may follow an outcome: a success or a failure for good. -/
def Settles (isTransient : ε → Bool) : Except ε α → Prop
  | .ok _ => True
  | .error e => isTransient e = false

theorem exists_error_of_not_settles {isTransient : ε → Bool} {outcome : Except ε α}
    (h : ¬Settles isTransient outcome) : ∃ e, outcome = .error e ∧ isTransient e = true := by
  cases outcome with
  | ok a => exact absurd trivial h
  | error e => exact ⟨e, rfl, Bool.eq_true_of_not_eq_false h⟩

/-- Whether retrying goes through some waits after so many attempts: attempts and waits take turns,
an attempt comes first and last, and the outcome of the last one is the result. -/
structure RunsThrough (outcome : Nat → Except ε α) (made : Nat)
    (d : Dialogue (RetryCall.Answer ε α) (Except DurationFault (Except ε α)))
    (waits : List Duration) : Prop where
  calls : RetryHistory.calls outcome made d =
    .attempt :: waits.flatMap fun w ↦ [.wait w, .attempt]
  play : RetryHistory.play outcome made d =
    ⟨made + waits.length + 1, waits, .ok (outcome (made + waits.length))⟩

variable {p : RetryPolicy} {isTransient : ε → Bool} {outcome : Nat → Except ε α}
  {made left : Nat} {waits : List Duration}

section Step

/-- Without retries left, the next outcome is the result. -/
theorem runsThrough_attempts_zero :
    RunsThrough outcome made (p.attempts isTransient 0) [] where
  calls := rfl
  play := rfl

/-- A success and a failure for good are results. -/
theorem runsThrough_attempts_of_settles (h : Settles isTransient (outcome made)) :
    RunsThrough outcome made (p.attempts isTransient left) [] := by
  cases left with
  | zero => exact runsThrough_attempts_zero
  | succ left =>
    cases houtcome : outcome made with
    | ok a =>
      constructor <;> simp [attempts, RetryHistory.calls, RetryHistory.play, houtcome]
    | error e =>
      have hfinal : isTransient e = false := by simpa only [houtcome, Settles] using h
      constructor <;> simp [attempts, RetryHistory.calls, RetryHistory.play, houtcome, hfinal]

/-- Any other failure is followed by the wait of its index, and then by the next attempt. -/
theorem runsThrough_attempts_succ {d : Duration} (h : ¬Settles isTransient (outcome made))
    (hdelay : p.delay (p.maxRetries - (left + 1)) = .ok d)
    (hlater : RunsThrough outcome (made + 1) (p.attempts isTransient left) waits) :
    RunsThrough outcome made (p.attempts isTransient (left + 1)) (d :: waits) := by
  obtain ⟨e, houtcome, htransient⟩ := exists_error_of_not_settles h
  have hcount : made + 1 + waits.length = made + (waits.length + 1) := by omega
  constructor
  · simp [attempts, RetryHistory.calls, houtcome, htransient, hdelay, onSuccess, hlater.calls]
  · simp [attempts, RetryHistory.play, houtcome, htransient, hdelay, onSuccess, hlater.play,
      hcount]

end Step

section Delays

variable {delays : List Duration}

/-- There is one wait for each retry. -/
theorem length_of_delays (h : p.delays = .ok delays) : delays.length = p.maxRetries := by
  rw [← (mapM_eq_ok_iff.1 h).length_eq, List.length_range]

theorem delay_of_delays (h : p.delays = .ok delays) {index : Nat} (hindex : index < delays.length) :
    p.delay index = .ok delays[index] := by
  have hrange : index < (List.range p.maxRetries).length := by
    rwa [List.length_range, ← length_of_delays h]
  simpa using (mapM_eq_ok_iff.1 h).get hrange hindex

end Delays

section Run

variable {delays : List Duration} {k : Nat}

/-- From any attempt on, retrying goes through the waits up to the first settled outcome, or
through all that are left. -/
theorem runsThrough_attempts (hdelays : p.delays = .ok delays) (hmade : made + left = p.maxRetries)
    (hk : k ≤ left) (hbefore : ∀ i < k, ¬Settles isTransient (outcome (made + i)))
    (hlast : Settles isTransient (outcome (made + k)) ∨ k = left) :
    RunsThrough outcome made (p.attempts isTransient left) ((delays.drop made).take k) := by
  induction k generalizing made left with
  | zero =>
    obtain hlast | rfl := hlast
    · exact runsThrough_attempts_of_settles hlast
    · exact runsThrough_attempts_zero
  | succ k ih =>
    obtain ⟨left, rfl⟩ : ∃ l, left = l + 1 := ⟨left - 1, by omega⟩
    have hindex : made < delays.length := by
      rw [length_of_delays hdelays]
      omega
    rw [List.drop_eq_getElem_cons hindex, List.take_succ_cons]
    refine runsThrough_attempts_succ (hbefore 0 k.succ_pos) ?_ (ih ?_ ?_ ?_ ?_)
    · rw [show p.maxRetries - (left + 1) = made by omega]
      exact delay_of_delays hdelays hindex
    · omega
    · omega
    · intro i hi
      rw [Nat.add_right_comm]
      exact hbefore (i + 1) (Nat.succ_lt_succ hi)
    · rw [Nat.add_right_comm]
      exact hlast.imp_right Nat.succ.inj

/-- Retrying goes through the waits up to the first settled outcome, or through all of them. -/
theorem runsThrough_retry (hdelays : p.delays = .ok delays) (hk : k ≤ p.maxRetries)
    (hbefore : ∀ i < k, ¬Settles isTransient (outcome i))
    (hlast : Settles isTransient (outcome k) ∨ k = p.maxRetries) :
    RunsThrough outcome 0 (p.retry isTransient) (delays.take k) := by
  refine runsThrough_attempts hdelays (Nat.zero_add _) hk ?_ ?_
  · simpa only [Nat.zero_add] using hbefore
  · simpa only [Nat.zero_add] using hlast

end Run

/-- Retrying makes attempts up to the first success or failure for good, whose outcome is the
result; where none is among the attempts that may be made, all of these are made, and the last
failure is the result.  The waits of the policy, before any of them is cut down, stand between the
attempts in their order, one between each two. -/
theorem retry_outcome {delays : List Duration} (hdelays : p.delays = .ok delays) :
    delays.length = p.maxRetries ∧
      (∀ k ≤ p.maxRetries, IsLeast {i | Settles isTransient (outcome i)} k →
        RetryHistory.play outcome 0 (p.retry isTransient) =
            ⟨k + 1, delays.take k, .ok (outcome k)⟩ ∧
          RetryHistory.calls outcome 0 (p.retry isTransient) =
            .attempt :: (delays.take k).flatMap fun d ↦ [.wait d, .attempt]) ∧
      ((∀ k ≤ p.maxRetries, ¬Settles isTransient (outcome k)) →
        ∃ e, outcome p.maxRetries = .error e ∧ isTransient e = true ∧
          RetryHistory.play outcome 0 (p.retry isTransient) =
            ⟨p.maxRetries + 1, delays, .ok (.error e)⟩ ∧
          RetryHistory.calls outcome 0 (p.retry isTransient) =
            .attempt :: delays.flatMap fun d ↦ [.wait d, .attempt]) := by
  have hlength := length_of_delays hdelays
  refine ⟨hlength, fun k hk hleast ↦ ?_, fun hnone ↦ ?_⟩
  · have hrun := runsThrough_retry hdelays hk
      (fun i hi hsettles ↦ Nat.not_le_of_lt hi (hleast.2 hsettles)) (.inl hleast.1)
    have hcount : 0 + (delays.take k).length = k := by
      rw [Nat.zero_add, List.length_take_of_le (hlength ▸ hk)]
    refine ⟨?_, hrun.calls⟩
    rw [hrun.play, hcount]
  · have hrun := runsThrough_retry hdelays (Nat.le_refl _)
      (fun i hi ↦ hnone i (Nat.le_of_lt hi)) (.inr rfl)
    rw [List.take_of_length_le (Nat.le_of_eq hlength)] at hrun
    obtain ⟨e, houtcome, htransient⟩ := exists_error_of_not_settles (hnone _ (Nat.le_refl _))
    refine ⟨e, houtcome, htransient, ?_, hrun.calls⟩
    rw [hrun.play, Nat.zero_add, hlength, houtcome]

/-- The standard policy with one retry only. -/
def single : RetryPolicy := { standard with maxRetries := 1 }

theorem single_delays : single.delays = .ok [.ofMillis 100] :=
  eq_ok_of_toOption (by decide +kernel)

/-- A failure for good on the last attempt ends retrying like one for which no retry is left. -/
theorem retry_outcome_single :
    (RetryHistory.play (fun made ↦ (.error (made == 0) : Except Bool Unit)) 0 (single.retry id) =
        ⟨2, [.ofMillis 100], .ok (.error false)⟩ ∧
      RetryHistory.calls (fun made ↦ (.error (made == 0) : Except Bool Unit)) 0 (single.retry id) =
        [.attempt, .wait (.ofMillis 100), .attempt]) ∧
      RetryHistory.play (fun _ ↦ (.error true : Except Bool Unit)) 0 (single.retry id) =
        ⟨2, [.ofMillis 100], .ok (.error true)⟩ := by
  have hleast : IsLeast {made : Nat | Settles id (.error (made == 0) : Except Bool Unit)} 1 := by
    refine ⟨rfl, fun made hmade ↦ ?_⟩
    cases made with
    | zero => cases hmade
    | succ made => exact Nat.succ_le_succ made.zero_le
  have hnone : ∀ k ≤ single.maxRetries,
      ¬Settles id ((fun _ ↦ .error true : Nat → Except Bool Unit) k) := fun _ _ h ↦ by cases h
  obtain ⟨e, houtcome, -, hplay, -⟩ := (retry_outcome single_delays).2.2 hnone
  cases houtcome
  exact ⟨(retry_outcome single_delays).2.1 1 (Nat.le_refl 1) hleast, hplay⟩

end RetryPolicy

end EventCatalog
