import EventCatalog.Event.Draft
import EventCatalog.Page
import EventCatalog.Query.Basic
import EventCatalog.Store.Interaction

/-!
# The Event Service

The operations on events and sessions, as computations that call the store.  A listing costs one
call for its rows and, following an offset, a second one for their total.  Inputs are checked before
the store is called, and a write is the last call of its operation.
-/

namespace EventCatalog.Service

/-- How the rows of a plan are described, which takes a count when an offset is followed. -/
def pageMode (plan : Plan) : Interaction PageMode :=
  if plan.isCursorMode then pure .cursor
  else do return .offset plan.offset (← Store.fetchCount plan)

/-- Whether a filter may be served to an audience: a tenant's own listing names the tenant. -/
def checkTenant (filter : EventFilter) (audience : Audience) : Except EventError Unit :=
  let named := filter.tenantId.any (!Text.isBlankText ·)
  if audience = .console && !named then .error (.validation "tenant id is required") else .ok ()

/-- A page of a listing. -/
def list (settings : PageSettings) (filter : EventFilter) (audience : Audience) :
    Interaction (Except EventError (Page Event)) :=
  let plan : Except EventError Plan := do
    checkTenant filter audience
    Plan.ofFilter filter audience settings
  .onSuccess plan fun plan ↦ do
    let rows ← Store.fetchPage plan
    .onSuccess rows fun rows ↦ do
      return .ok (Page.ofRows Event.position rows plan.limit (← pageMode plan))

/-- The filter that selects one event of a tenant. -/
def eventFilter (tenantId : String) (id : Uuid) : EventFilter :=
  { (EventFilter.forTenant tenantId).withLimit 1 with eventId := some id }

/-- One event of a tenant with all of its sessions. -/
def getEvent (settings : PageSettings) (tenantId : String) (id : Uuid) :
    Interaction (Except EventError Event) :=
  .onSuccess (Plan.ofFilter (eventFilter tenantId id) .console settings) fun plan ↦ do
    let rows ← Store.fetchPage plan
    return rows.bind fun rows ↦
      match rows with
      | event :: _ => .ok event
      | [] => .error (.notFound id)

/-- Stores a new event.  `now` and `id` are the time and the identifier that it gets. -/
def createEvent (tenantId : String) (actor : Option String) (draft : EventDraft) (now : Instant)
    (id : Uuid) : Interaction (Except EventError Event) :=
  .onSuccess (Validation.check draft.faults) fun _ ↦
    Store.insertEvent (draft.toEvent tenantId actor now id)

/-- The rules of a session: those of its fields, and that it starts before it ends. -/
def checkSession (draft : SessionDraft) : Except EventError Unit := do
  Validation.check draft.faults
  if draft.endTime ≤ draft.startTime then
    .error (.validation "start_time must be before end_time")
  else .ok ()

/-- Stores a new session of an event that the tenant has. -/
def createSession (tenantId : String) (eventId : Uuid) (draft : SessionDraft) (now : Instant)
    (id : Uuid) : Interaction (Except EventError Session) :=
  .onSuccess (checkSession draft) fun _ ↦ do
    let found ← Store.eventExists tenantId eventId
    .onSuccess found fun found ↦
      if found then Store.insertSession (draft.toSession eventId now id)
      else .fail (.notFound eventId)

end EventCatalog.Service
