import EventCatalog.Api.Input
import EventCatalog.Service

/-!
# Operations

The operations of the HTTP interface on events: the input is read first, the service is asked, and
its outcome becomes the response.  The tenant of a request is the one of its header field, whatever
its parameters or its body say.
-/

namespace EventCatalog.Api

open Http

/-- The time and the identifier for what a request creates. -/
structure Stamp where
  now : Instant
  id : Uuid
  deriving DecidableEq, Repr

def outcomeResponse (status : Nat) (toJson : α → Json) : Except EventError α → Response
  | .ok a => .ofJson status (toJson a)
  | .error e => errorResponse e

/-- Runs an operation once its input is read. -/
def operate (status : Nat) (toJson : α → Json)
    (operation : Except Rejection (Interaction (Except EventError α))) : Interaction Response :=
  match operation with
  | .ok m => do return outcomeResponse status toJson (← m)
  | .error r => pure r.toResponse

def listEvents (settings : PageSettings) (request : Request) : Interaction Response :=
  operate 200 eventPageJson do
    let tenant ← Input.tenant request
    let filter ← Input.filter settings request
    return Service.list settings { filter with tenantId := some tenant } .console

def listPublicEvents (settings : PageSettings) (request : Request) : Interaction Response :=
  operate 200 eventPageJson do
    return Service.list settings (← Input.filter settings request) .everyone

def showEvent (settings : PageSettings) (segment : String) (request : Request) :
    Interaction Response :=
  operate 200 Event.toJson do
    let tenant ← Input.tenant request
    return Service.getEvent settings tenant (← Input.identifier segment)

def createEvent (stamp : Stamp) (request : Request) : Interaction Response :=
  operate 201 Event.toJson do
    let tenant ← Input.tenant request
    let draft ← Input.record EventDraft.decode request
    return Service.createEvent tenant (Input.actor? request) draft stamp.now stamp.id

def createSession (stamp : Stamp) (segment : String) (request : Request) : Interaction Response :=
  operate 201 Session.toJson do
    let tenant ← Input.tenant request
    let eventId ← Input.identifier segment
    let draft ← Input.record SessionDraft.decode request
    return Service.createSession tenant eventId draft stamp.now stamp.id

end EventCatalog.Api
