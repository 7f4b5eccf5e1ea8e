import EventCatalog.Api.Handling
import EventCatalog.Mongo.Repository

/-!
# The Application over a Database

How a request is answered when the store is a database.  Besides the resources of every application,
this one reports whether the database answers; like the report that the process serves, this report
is made without a deadline and never coded.
-/

namespace EventCatalog.Api

open Http

/-- The report whether the database answers, after `waited` milliseconds of waiting. -/
def readinessReport (wording : Mongo.Wording) (health : Except Mongo.Fault Unit) (waited : Nat) :
    Response :=
  match health with
  | .ok () => .ofJson 200 (.object [("status", "ready"), ("mongodb", .bool true),
      ("response_time_ms", .int waited)])
  | .error fault => .ofJson 503 (.object [("status", "not ready"), ("mongodb", .bool false),
      ("message", .string (wording.fault fault)), ("response_time_ms", .int waited)])

/-- Answers a request by commands to a database.  The commands take no time, unless they wait for a
database out of reach. -/
def answer (app : Application) (stamp : Stamp) (request : Request) : Mongo.Exchange Response := do
  if Resource.ofTarget? request.target = some .readiness then
    if Resource.readiness.methods.contains request.method then
      let (health, waited) ← Mongo.timed Mongo.ping
      return (readinessReport (← get).wording health waited).forMethod request.method
    else
      return { Response.ofStatus 405 with allow := some Resource.readiness.methods }
  else
    let h := handling app stamp request
    if h.isBounded && app.requestLimit = 0 then return h.finish request Handling.timedOut
    else
      let (response, waited) ← Mongo.timed (h.respond.interpret Mongo.perform)
      let isLate := h.isBounded && app.requestLimit ≤ waited
      return h.finish request (if isLate then Handling.timedOut else response)

end EventCatalog.Api
