import EventCatalog.Dialogue
import EventCatalog.Error
import EventCatalog.Event.Basic
import EventCatalog.Plan.Basic

/-!
# Interactions with the Store

What the library asks of a store of events and sessions, and the answers that it expects.
-/

namespace EventCatalog

inductive StoreCall where
  /-- The rows of a plan, with their sessions. -/
  | fetchPage (plan : Plan)
  /-- The number of rows a plan pages over. -/
  | fetchCount (plan : Plan)
  | eventExists (tenantId : String) (id : Uuid)
  | insertEvent (event : Event)
  /-- Stores a session; a second one with the same times at the same event is a validation error. -/
  | insertSession (session : Session)
  deriving DecidableEq, Repr

/-- What the store answers to a call.  A failed count has no error of its own. -/
def StoreCall.Answer : StoreCall → Type
  | fetchPage _ => Except EventError (List Event)
  | fetchCount _ => Option Nat
  | eventExists _ _ => Except EventError Bool
  | insertEvent _ => Except EventError Event
  | insertSession _ => Except EventError Session

/-- A computation that calls the store. -/
abbrev Interaction (α : Type) := Dialogue StoreCall.Answer α

namespace Store

def fetchPage (plan : Plan) : Interaction (Except EventError (List Event)) :=
  Dialogue.ask (StoreCall.fetchPage plan)

def fetchCount (plan : Plan) : Interaction (Option Nat) :=
  Dialogue.ask (StoreCall.fetchCount plan)

def eventExists (tenantId : String) (id : Uuid) : Interaction (Except EventError Bool) :=
  Dialogue.ask (StoreCall.eventExists tenantId id)

def insertEvent (event : Event) : Interaction (Except EventError Event) :=
  Dialogue.ask (StoreCall.insertEvent event)

def insertSession (session : Session) : Interaction (Except EventError Session) :=
  Dialogue.ask (StoreCall.insertSession session)

end Store

end EventCatalog
