/-!
# Dialogues

Computations that call a partner and go on with its answers.  A dialogue is either done or waits for
the answer to one call; it says nothing about where answers come from, so the same dialogue runs
against a script of answers and against a database.
-/

namespace EventCatalog

/-- A computation that makes calls; the answer to the call `c` is an `Answer c`. -/
inductive Dialogue {Call : Type} (Answer : Call → Type) (α : Type) where
  | done (a : α)
  | call (c : Call) (next : Answer c → Dialogue Answer α)

namespace Dialogue

variable {Call : Type} {Answer : Call → Type}

/-- Runs a second dialogue on the result of a first one. -/
def bind : Dialogue Answer α → (α → Dialogue Answer β) → Dialogue Answer β
  | done a, f => f a
  | call c next, f => call c fun answer ↦ bind (next answer) f

instance : Monad (Dialogue Answer) where
  pure := done
  bind := bind

/-- One call, whose answer is the result. -/
def ask (c : Call) : Dialogue Answer (Answer c) := call c done

/-- A dialogue that fails without a call. -/
def fail (e : ε) : Dialogue Answer (Except ε α) := done (.error e)

/-- Goes on with the value of an outcome, or stops with its error. -/
def onSuccess (outcome : Except ε α) (f : α → Dialogue Answer (Except ε β)) :
    Dialogue Answer (Except ε β) :=
  match outcome with
  | .ok a => f a
  | .error e => fail e

/-- Runs a dialogue in a monad, in which `f` answers each call. -/
def interpret {m : Type → Type} [Monad m] (f : (c : Call) → m (Answer c)) :
    Dialogue Answer α → m α
  | done a => pure a
  | call c next => do interpret f (next (← f c))

/-- Running respects the order of dialogues. -/
theorem interpret_bind {m : Type → Type} [Monad m] [LawfulMonad m]
    (f : (c : Call) → m (Answer c)) (d : Dialogue Answer α) (g : α → Dialogue Answer β) :
    interpret f (bind d g) = interpret f d >>= fun a ↦ interpret f (g a) := by
  induction d with
  | done a => simp [bind, interpret]
  | call c next ih => simp [bind, interpret, ih]

end Dialogue

end EventCatalog
