import EventCatalog.Api.Operation
import EventCatalog.Api.Resource
import EventCatalog.OpenApi.Document
import EventCatalog.Store.Script

/-!
# Handling of Requests

How a request is answered: the resource of its path runs an operation, and the layers around it
apply to what comes out.  A request that runs past its deadline is answered with 408; a deadline of
zero passes before anything is done.  A method that a resource does not have is answered with the
methods that it has, a path without a resource with a JSON error.
-/

namespace EventCatalog.Api

open Http

def applicationName : String := "events_api"

def applicationVersion : String := "0.1.0"

/-- What requests depend on besides the store. -/
structure Application where
  settings : PageSettings
  /-- The milliseconds that a request may take. -/
  requestLimit : Nat

/-- How a request is answered by calls to a partner. -/
structure Handling {Call : Type} (Answer : Call → Type) where
  /-- Whether the deadline and the client's coding apply. -/
  isBounded : Bool
  /-- The methods that the response names, whatever becomes of the request. -/
  allow : Option (List Method)
  respond : Dialogue Answer Response

namespace Handling

variable {Call : Type} {Answer : Call → Type}

def timedOut : Response := .ofStatus 408

/-- Applies the layers to what comes out: the coding, the named methods, and that `HEAD` gets no
body. -/
def finish (h : Handling Answer) (request : Request) (r : Response) : Response :=
  let r := if h.isBounded then r.coded request.headers else r
  { r with allow := h.allow }.forMethod request.method

end Handling

def unknownPath (request : Request) : Response :=
  .ofJson 404 (.object [("code", .int 404), ("error", "NOT_FOUND"),
    ("message", .string ("No route for " ++ request.target.path))])

def healthReport : Json :=
  .object [("status", "healthy"), ("name", .string applicationName),
    ("version", .string applicationVersion)]

/-- What a resource does for one of its methods.  The files of the pages are kept elsewhere, and so
is the readiness of a database. -/
def perform (app : Application) (stamp : Stamp) (request : Request) :
    Resource → Interaction Response
  | .events =>
    if request.method = .post then createEvent stamp request else listEvents app.settings request
  | .event segment => showEvent app.settings segment request
  | .sessions segment => createSession stamp segment request
  | .publicEvents => listPublicEvents app.settings request
  | .health => pure (.ofJson 200 healthReport)
  | .readiness => pure (unknownPath request)
  | .description => pure (.ofJson 200 OpenApi.document)
  | .pages => pure (.ofStatus 303)
  | .pageFile => pure (.ofStatus 404)

/-- The handling of a request to an application without a database of its own. -/
def handling (app : Application) (stamp : Stamp) (request : Request) : Handling StoreCall.Answer :=
  match (Resource.ofTarget? request.target).filter (· ≠ .readiness) with
  | none => ⟨true, none, pure (unknownPath request)⟩
  | some resource =>
    if resource.methods.contains request.method then
      ⟨resource.isBounded, none, perform app stamp request resource⟩
    else ⟨resource.isBounded, some resource.methods, pure (.ofStatus 405)⟩

/-- The calls that a request caused, and its response. -/
structure Exchange where
  calls : List StoreCall
  response : Response

/-- Answers a request from a script. -/
def exchange (app : Application) (stamp : Stamp) (request : Request) (script : List ScriptedReply) :
    Exchange :=
  let h := handling app stamp request
  if h.isBounded && app.requestLimit = 0 then ⟨[], h.finish request Handling.timedOut⟩
  else
    let run := h.respond.run script
    match run.outcome with
    | .finished r => ⟨run.calls, h.finish request r⟩
    | .cancelled => ⟨run.calls, h.finish request Handling.timedOut⟩
    | .stuck => ⟨run.calls, h.finish request Handling.timedOut⟩

end EventCatalog.Api
