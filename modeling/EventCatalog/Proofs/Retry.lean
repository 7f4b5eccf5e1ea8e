import EventCatalog.Proofs.Dialogue.Refinement
import EventCatalog.Proofs.Except
import EventCatalog.Retry

/-!
# Attempts and waits

What retrying asks, and how it ends.  A further attempt is made exactly after transient failures, as
long as retries are left, and each of these failures is followed by the wait of its index.  Any
other outcome is the result, and so is the failure for which no retry is left.
-/

namespace EventCatalog.RetryPolicy

open Dialogue

variable {ε α : Type} {p : RetryPolicy} {isTransient : ε → Bool}
  {history : History (RetryCall.Answer ε α)}

/-- The first wait of the standard policy is its initial one. -/
theorem standard_delay_zero : standard.delay 0 = .ok standard.initialDelay :=
  eq_ok_of_toOption (by decide +kernel)

/-- Whether failures are such that another attempt follows each of them, after the wait beside it.
`index` is that of the first wait. -/
def Retries (p : RetryPolicy) (isTransient : ε → Bool) : (index : Nat) → List (ε × Duration) → Prop
  | _, [] => True
  | index, (e, d) :: rest =>
    isTransient e = true ∧ p.delay index = .ok d ∧ Retries p isTransient (index + 1) rest

/-- Whether failures are retried one after another from the first attempt on. -/
def AllRetried (p : RetryPolicy) (isTransient : ε → Bool) (failed : List (ε × Duration)) : Prop :=
  p.Retries isTransient 0 failed ∧ failed.length ≤ p.maxRetries

/-- The calls of failed attempts and of the waits behind them. -/
def failures : List (ε × Duration) → History (RetryCall.Answer ε α)
  | [] => []
  | (e, d) :: rest => ⟨.attempt, (.error e : Except ε α)⟩ :: ⟨.wait d, ()⟩ :: failures rest

section Step

variable {left : Nat}

/-- With a retry left, another attempt follows a transient failure and its wait. -/
theorem asks_attempts_succ :
    (p.attempts isTransient (left + 1)).Asks history .attempt ↔
      history = [] ∨ ∃ e d rest,
        history = ⟨.attempt, (.error e : Except ε α)⟩ :: ⟨.wait d, ()⟩ :: rest ∧
          isTransient e = true ∧ p.delay (p.maxRetries - (left + 1)) = .ok d ∧
            (p.attempts isTransient left).Asks rest .attempt := by
  rw [attempts, asks_call]
  constructor
  · rintro (⟨rfl, -⟩ | ⟨outcome, rest, rfl, hasks⟩)
    · exact .inl rfl
    · right
      cases outcome with
      | ok a => exact absurd hasks (not_asks_done _ _ _)
      | error e =>
        dsimp only at hasks
        split at hasks
        next htransient =>
          obtain ⟨d, hdelay, hwait⟩ := asks_onSuccess.1 hasks
          obtain ⟨-, hcall⟩ | ⟨_, rest, rfl, hlater⟩ := asks_call.1 hwait
          · cases hcall
          · exact ⟨e, d, rest, rfl, htransient, hdelay, hlater⟩
        next => exact absurd hasks (not_asks_done _ _ _)
  · rintro (rfl | ⟨e, d, rest, rfl, htransient, hdelay, hlater⟩)
    · exact .inl ⟨rfl, rfl⟩
    · refine .inr ⟨.error e, _, rfl, ?_⟩
      dsimp only
      rw [if_pos htransient]
      exact asks_onSuccess.2 ⟨d, hdelay, asks_call.2 (.inr ⟨(), _, rfl, hlater⟩)⟩

/-- With a retry left, an outcome is the result unless it is a transient failure. -/
theorem ends_attempts_succ {outcome : Except ε α} :
    (p.attempts isTransient (left + 1)).Ends history (.ok outcome) ↔
      (history = [⟨.attempt, outcome⟩] ∧ ∀ e, outcome = .error e → isTransient e = false) ∨
        ∃ e d rest,
          history = ⟨.attempt, (.error e : Except ε α)⟩ :: ⟨.wait d, ()⟩ :: rest ∧
            isTransient e = true ∧ p.delay (p.maxRetries - (left + 1)) = .ok d ∧
              (p.attempts isTransient left).Ends rest (.ok outcome) := by
  rw [attempts, ends_call]
  constructor
  · rintro ⟨first, rest, rfl, hends⟩
    cases first with
    | ok a =>
      obtain ⟨rfl, houtcome⟩ := ends_done.1 hends
      cases houtcome
      exact .inl ⟨rfl, fun e he ↦ by cases he⟩
    | error e =>
      dsimp only at hends
      split at hends
      next htransient =>
        obtain ⟨_, -, -, hfault⟩ | ⟨d, hdelay, hwait⟩ := ends_onSuccess.1 hends
        · cases hfault
        · obtain ⟨_, rest, rfl, hlater⟩ := ends_call.1 hwait
          exact .inr ⟨e, d, rest, rfl, htransient, hdelay, hlater⟩
      next hfinal =>
        obtain ⟨rfl, houtcome⟩ := ends_done.1 hends
        cases houtcome
        refine .inl ⟨rfl, fun e' he ↦ ?_⟩
        cases he
        exact Bool.eq_false_iff.2 hfinal
  · rintro (⟨rfl, hfinal⟩ | ⟨e, d, rest, rfl, htransient, hdelay, hlater⟩)
    · refine ⟨outcome, [], rfl, ?_⟩
      cases outcome with
      | ok a => exact .done _
      | error e =>
        dsimp only
        rw [if_neg (Bool.eq_false_iff.1 (hfinal e rfl))]
        exact .done _
    · refine ⟨.error e, _, rfl, ?_⟩
      dsimp only
      rw [if_pos htransient]
      exact ends_onSuccess.2 (.inr ⟨d, hdelay, ends_call.2 ⟨(), _, rfl, hlater⟩⟩)

end Step

section Run

variable {left : Nat}

/-- An attempt is made after so many transient failures as there are retries, at most. -/
theorem asks_attempts (hleft : left ≤ p.maxRetries) :
    (p.attempts isTransient left).Asks history .attempt ↔
      ∃ failed, p.Retries isTransient (p.maxRetries - left) failed ∧ failed.length ≤ left ∧
        history = failures failed := by
  induction left generalizing history with
  | zero =>
    rw [attempts, asks_call]
    constructor
    · rintro (⟨rfl, -⟩ | ⟨outcome, rest, rfl, hasks⟩)
      · exact ⟨[], trivial, Nat.le_refl 0, rfl⟩
      · exact absurd hasks (not_asks_done _ _ _)
    · rintro ⟨failed, -, hlength, rfl⟩
      rw [List.eq_nil_of_length_eq_zero (Nat.le_zero.1 hlength)]
      exact .inl ⟨rfl, rfl⟩
  | succ left ih =>
    -- A wait is found by the failures so far, the induction goes by the retries left.
    have hindex : p.maxRetries - (left + 1) + 1 = p.maxRetries - left := by omega
    rw [asks_attempts_succ]
    simp only [ih (Nat.le_of_succ_le hleft)]
    constructor
    · rintro (rfl | ⟨e, d, _, rfl, htransient, hdelay, failed, hfailed, hlength, rfl⟩)
      · exact ⟨[], trivial, Nat.zero_le _, rfl⟩
      · rw [← hindex] at hfailed
        exact ⟨(e, d) :: failed, ⟨htransient, hdelay, hfailed⟩, Nat.succ_le_succ hlength, rfl⟩
    · rintro ⟨failed, hfailed, hlength, rfl⟩
      cases failed with
      | nil => exact .inl rfl
      | cons first failed =>
        obtain ⟨e, d⟩ := first
        obtain ⟨htransient, hdelay, hlater⟩ := hfailed
        rw [hindex] at hlater
        exact .inr ⟨e, d, _, rfl, htransient, hdelay, failed, hlater,
          Nat.le_of_succ_le_succ hlength, rfl⟩

/-- The result is the outcome of the last attempt, which is no transient failure unless the retries
are used up. -/
theorem ends_attempts (hleft : left ≤ p.maxRetries) {outcome : Except ε α} :
    (p.attempts isTransient left).Ends history (.ok outcome) ↔
      ∃ failed, p.Retries isTransient (p.maxRetries - left) failed ∧ failed.length ≤ left ∧
        history = failures failed ++ [⟨.attempt, outcome⟩] ∧
          ∀ e, outcome = .error e → isTransient e = true → failed.length = left := by
  induction left generalizing history with
  | zero =>
    rw [attempts, ends_call]
    constructor
    · rintro ⟨first, rest, rfl, hends⟩
      obtain ⟨rfl, houtcome⟩ := ends_done.1 hends
      cases houtcome
      exact ⟨[], trivial, Nat.le_refl 0, rfl, fun _ _ _ ↦ rfl⟩
    · rintro ⟨failed, -, hlength, rfl, -⟩
      rw [List.eq_nil_of_length_eq_zero (Nat.le_zero.1 hlength)]
      exact ⟨outcome, [], rfl, .done _⟩
  | succ left ih =>
    have hindex : p.maxRetries - (left + 1) + 1 = p.maxRetries - left := by omega
    rw [ends_attempts_succ]
    simp only [ih (Nat.le_of_succ_le hleft)]
    constructor
    · rintro (⟨rfl, hfinal⟩ |
        ⟨e, d, _, rfl, htransient, hdelay, failed, hfailed, hlength, rfl, hlast⟩)
      · refine ⟨[], trivial, Nat.zero_le _, rfl, fun e he htransient ↦ ?_⟩
        rw [hfinal e he] at htransient
        cases htransient
      · rw [← hindex] at hfailed
        refine ⟨(e, d) :: failed, ⟨htransient, hdelay, hfailed⟩, Nat.succ_le_succ hlength, rfl, ?_⟩
        intro e' he' htransient'
        exact congrArg (· + 1) (hlast e' he' htransient')
    · rintro ⟨failed, hfailed, hlength, rfl, hlast⟩
      cases failed with
      | nil =>
        refine .inl ⟨rfl, fun e he ↦ Bool.eq_false_iff.2 fun htransient ↦ ?_⟩
        exact absurd (hlast e he htransient) (Nat.succ_ne_zero left).symm
      | cons first failed =>
        obtain ⟨e, d⟩ := first
        obtain ⟨htransient, hdelay, hlater⟩ := hfailed
        rw [hindex] at hlater
        refine .inr ⟨e, d, _, rfl, htransient, hdelay, failed, hlater,
          Nat.le_of_succ_le_succ hlength, rfl, ?_⟩
        intro e' he' htransient'
        exact Nat.succ.inj (hlast e' he' htransient')

end Run

/-- Retrying makes an attempt exactly after failures that are all retried. -/
theorem asks_retry :
    (p.retry isTransient).Asks history .attempt ↔
      ∃ failed, p.AllRetried isTransient failed ∧ history = failures failed := by
  rw [retry, asks_attempts (Nat.le_refl _), Nat.sub_self]
  exact exists_congr fun _ ↦ and_assoc.symm

/-- Retrying ends with a success, with a failure that is not transient, or with the failure for
which no retry is left. -/
theorem ends_retry {outcome : Except ε α} :
    (p.retry isTransient).Ends history (.ok outcome) ↔
      ∃ failed, p.AllRetried isTransient failed ∧
        history = failures failed ++ [⟨.attempt, outcome⟩] ∧
          ∀ e, outcome = .error e → isTransient e = true → failed.length = p.maxRetries := by
  rw [retry, ends_attempts (Nat.le_refl _), Nat.sub_self]
  exact exists_congr fun _ ↦ and_assoc.symm

end EventCatalog.RetryPolicy
