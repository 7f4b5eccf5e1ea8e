import EventCatalog.Store.Interaction

/-!
# Scripted Stores

A script answers the calls of a computation one after the other, and says how each answer arrives:
at once, after a moment in which the caller looks up, or never.  It can also cancel the token under
which the computation runs.  The token is looked at whenever the computation is polled, that is at
the start and after every moment of waiting, and before the computation goes on.
-/

namespace EventCatalog

/-- How one call is answered.  Its parts apply in the order of the fields. -/
structure ScriptedReply where
  /-- Cancels the token. -/
  cancels : Bool
  /-- Lets the caller look up once before the answer arrives. -/
  pends : Bool
  /-- Never answers. -/
  hangs : Bool
  /-- Fails; a count that fails is merely absent. -/
  error : Option EventError
  rows : List Event
  count : Option Nat
  found : Bool
  /-- The identifier that an inserted entity gets. -/
  id : Uuid
  /-- The time that an inserted entity gets. -/
  time : Instant
  deriving DecidableEq, Repr

namespace ScriptedReply

/-- Answers at once that nothing was found. -/
def empty : ScriptedReply :=
  ⟨false, false, false, none, [], none, false, Uuid.nil, Instant.epoch⟩

instance : Inhabited ScriptedReply := ⟨empty⟩

/-- The error of a reply, or a value. -/
def orError (r : ScriptedReply) (a : α) : Except EventError α :=
  match r.error with
  | some e => .error e
  | none => .ok a

def answer (r : ScriptedReply) : (c : StoreCall) → c.Answer
  | .fetchPage _ => r.orError r.rows
  | .fetchCount _ => if r.error.isSome then none else r.count
  | .eventExists _ _ => r.orError r.found
  | .insertEvent e => r.orError { e with id := r.id, createdAt := r.time, updatedAt := r.time }
  | .insertSession s => r.orError { s with id := r.id, createdAt := r.time, updatedAt := r.time }

end ScriptedReply

/-- How a computation ends. -/
inductive Outcome (α : Type) where
  | finished (a : α)
  | cancelled
  /-- A call was never answered. -/
  | stuck
  deriving DecidableEq, Repr

/-- The calls that a computation made, and how it ended. -/
structure Run (α : Type) where
  calls : List StoreCall
  outcome : Outcome α

namespace Dialogue

/-- Plays a script; calls beyond it get the empty reply.  `cancelled` is the state of the token,
which only a `watched` computation looks at. -/
def play (watched : Bool) : (cancelled : Bool) → Interaction α → List ScriptedReply → Run α
  | _, done a, _ => ⟨[], .finished a⟩
  | cancelled, call c next, script =>
    let reply := script.headD .empty
    let cancelled := cancelled || reply.cancels
    if watched && cancelled && (reply.pends || reply.hangs) then ⟨[c], .cancelled⟩
    else if reply.hangs then ⟨[c], .stuck⟩
    else
      let rest := play watched cancelled (next (reply.answer c)) script.tail
      ⟨c :: rest.calls, rest.outcome⟩

/-- Plays a script for a computation that cannot be cancelled. -/
def run (m : Interaction α) (script : List ScriptedReply) : Run α := play false false m script

/-- Plays a script for a computation under a token, which is looked at before the first call. -/
def runCancellable (cancelled : Bool) (m : Interaction α) (script : List ScriptedReply) : Run α :=
  if cancelled then ⟨[], .cancelled⟩ else play true false m script

end Dialogue

end EventCatalog
