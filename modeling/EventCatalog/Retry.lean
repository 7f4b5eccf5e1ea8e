import EventCatalog.Dialogue
import EventCatalog.Duration

/-!
# Retrying

An operation is attempted until it succeeds, fails for good, or the retries are used up.  Before
each retry there is one wait, and after the last attempt none.  Waits grow by a factor from one to
the next up to a longest one; the growth is computed in floating-point numbers, so that a wait may
turn out to be no duration.
-/

namespace EventCatalog

/-- How often and after which waits an operation is attempted again. -/
structure RetryPolicy where
  /-- The attempts after the first one. -/
  maxRetries : Nat
  initialDelay : Duration
  maxDelay : Duration
  multiplier : Binary64
  /-- Whether waits may be cut down to as little as their half, so that many clients do not come
  back all at once. -/
  jitters : Bool
  deriving DecidableEq, Repr

namespace RetryPolicy

/-- Three retries after a tenth of a second, twice and four times as much. -/
def standard : RetryPolicy := ⟨3, .ofMillis 100, .ofMillis 5000, .ofNat 2, true⟩

instance : Inhabited RetryPolicy := ⟨standard⟩

/-- The largest exponent to which the multiplier is raised. -/
def maxExponent : Nat := 0x7FFFFFFF

/-- The wait before the retry of an index. -/
def delay (p : RetryPolicy) (index : Nat) : Except DurationFault Duration :=
  let grown := p.initialDelay.toSeconds.mul (p.multiplier.pow (min index maxExponent))
  Duration.ofSeconds (grown.lesser p.maxDelay.toSeconds)

/-- The waits before all retries. -/
def delays (p : RetryPolicy) : Except DurationFault (List Duration) :=
  (List.range p.maxRetries).mapM p.delay

end RetryPolicy

/-- What retrying asks its partner for. -/
inductive RetryCall where
  | attempt
  | wait (d : Duration)
  deriving DecidableEq, Repr

/-- An attempt has an outcome, a wait has none. -/
def RetryCall.Answer (ε α : Type) : RetryCall → Type
  | attempt => Except ε α
  | wait _ => Unit

namespace RetryPolicy

/-- Attempts an operation with so many retries left. -/
def attempts (p : RetryPolicy) (isTransient : ε → Bool) :
    (left : Nat) → Dialogue (RetryCall.Answer ε α) (Except DurationFault (Except ε α))
  | 0 => .call .attempt fun outcome ↦ .done (.ok outcome)
  | left + 1 => .call .attempt fun
    | .ok a => .done (.ok (.ok a))
    | .error e =>
      if isTransient e then
        .onSuccess (p.delay (p.maxRetries - (left + 1))) fun d ↦
          .call (.wait d) fun _ ↦ attempts p isTransient left
      else .done (.ok (.error e))

/-- Attempts an operation; `isTransient` says which errors another attempt may not meet again. -/
def retry (p : RetryPolicy) (isTransient : ε → Bool) :
    Dialogue (RetryCall.Answer ε α) (Except DurationFault (Except ε α)) :=
  p.attempts isTransient p.maxRetries

end RetryPolicy

structure RetryHistory (α : Type) where
  attempts : Nat
  waits : List Duration
  result : α

namespace RetryHistory

/-- The milliseconds of all waits. -/
def waitedMillis (h : RetryHistory α) : Nat := h.waits.foldr (fun d n ↦ d.waitMillis + n) 0

/-- Plays a dialogue of retries; `outcome` gives the outcome of each attempt, and `made` attempts
were made before. -/
def play (outcome : Nat → Except ε α) :
    (made : Nat) → Dialogue (RetryCall.Answer ε α) β → RetryHistory β
  | made, .done b => ⟨made, [], b⟩
  | made, .call .attempt next => play outcome (made + 1) (next (outcome made))
  | made, .call (.wait d) next =>
    let history := play outcome made (next ())
    { history with waits := d :: history.waits }

end RetryHistory

end EventCatalog
