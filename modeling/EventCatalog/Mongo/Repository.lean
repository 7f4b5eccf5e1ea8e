import EventCatalog.Event.Stored
import EventCatalog.Mongo.Server
import EventCatalog.Plan.Pipeline
import EventCatalog.Store.Interaction

/-!
# Events and Sessions in a Database

How the calls of the store become commands.  Every row of a page has to be an event; one that is not
fails the page.  A count that fails or that has an unexpected shape is absent and fails nothing.
-/

namespace EventCatalog.Mongo

/-- What the store reports of a fault. -/
def Wording.report (w : Wording) (f : Fault) : EventError := .database (w.fault f)

def Wording.decodeRow (w : Wording) (row : Document) : Except EventError Event :=
  match Event.ofDocument? row with
  | some e => .ok e
  | none => .error (.undecodable (w.row row))

/-- The rows of a plan. -/
def fetchPage (plan : Plan) : Exchange (Except EventError (List Event)) := do
  let rows ← allRows eventsCollection plan.pipeline
  let wording := (← get).wording
  return (rows.mapError wording.report).bind (·.mapM wording.decodeRow)

/-- The number that the row of a count holds. -/
def total? (row : Document) : Option Nat :=
  (row.get? "total").bind (Bson.decodeUnsigned Text.max64)

/-- The number of rows that a plan pages over.  No row at all means that nothing matched. -/
def fetchCount (plan : Plan) : Exchange (Option Nat) := do
  match ← firstRow eventsCollection plan.countPipeline with
  | .ok none => return some 0
  | .ok (some row) => return total? row
  | .error _ => return none

/-- The pipeline that counts the documents with an identifier and a tenant. -/
def existsPipeline (tenantId : String) (id : Uuid) : List Document :=
  [[("$match", .document [("_id", .ofUuid id), ("tenant_id", tenantId)])],
    [("$group", .document [("_id", .int32 1), ("n", .single "$sum" (.int32 1))])]]

/-- The number of documents that the reply to a count reports. -/
def reportedCount (rows : List Document) : Except Fault Nat :=
  match rows with
  | [] => .ok 0
  | row :: _ =>
    match (row.get? "n").bind (Bson.decodeUnsigned Text.max64) with
    | some n => .ok n
    | none => .error .unreadableReply

/-- Whether a tenant has an event.  The count arrives in the first batch. -/
def eventExists (tenantId : String) (id : Uuid) : Exchange (Except EventError Bool) := do
  let rows ← aggregate (fun _ ↦ true) eventsCollection (existsPipeline tenantId id)
  return ((rows.bind reportedCount).mapError (← get).wording.report).map (0 < ·)

def insertEvent (event : Event) : Exchange (Except EventError Event) := do
  let reply ← send (.insert eventsCollection [event.toDocument])
  return (reply.written.mapError (← get).wording.report).map fun _ ↦ event

/-- What the store reports when a session could not be written. -/
def Wording.reportSession (w : Wording) (f : Fault) : EventError :=
  if f.isDuplicateKey then
    .validation "a session with the same start and end time already exists"
  else w.report f

def insertSession (session : Session) : Exchange (Except EventError Session) := do
  let reply ← send (.insert sessionsCollection [session.toDocument])
  return (reply.written.mapError (← get).wording.reportSession).map fun _ ↦ session

def perform : (c : StoreCall) → Exchange c.Answer
  | .fetchPage plan => fetchPage plan
  | .fetchCount plan => fetchCount plan
  | .eventExists tenantId id => eventExists tenantId id
  | .insertEvent event => insertEvent event
  | .insertSession session => insertSession session

end EventCatalog.Mongo
