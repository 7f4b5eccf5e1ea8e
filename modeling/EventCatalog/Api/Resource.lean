import EventCatalog.Http.Message

/-!
# Resources

The resources of the HTTP interface, the paths that lead to them and the methods that they have.  A
path is compared piece by piece, with regard to case and before escapes are read; a variable piece
is not empty.  A trailing slash makes another path.
-/

namespace EventCatalog.Api

open Http

/-- What a path leads to. -/
inductive Resource where
  /-- The events of a tenant. -/
  | events
  /-- One event of a tenant; `id` is the piece of the path that names it. -/
  | event (id : String)
  | sessions (id : String)
  /-- The events that everyone may see. -/
  | publicEvents
  /-- Whether the process serves. -/
  | health
  /-- Whether the database answers. -/
  | readiness
  | description
  /-- The entry of the pages that show the description. -/
  | pages
  | pageFile
  deriving DecidableEq, Repr

namespace Resource

def ofSegments? : List String → Option Resource
  | ["", "api", "console", "events"] => some events
  | ["", "api", "console", "events", id] => if id.isEmpty then none else some (event id)
  | ["", "api", "console", "events", id, "sessions"] =>
    if id.isEmpty then none else some (sessions id)
  | ["", "api", "public", "events"] => some publicEvents
  | ["", "health"] => some health
  | ["", "ready"] => some readiness
  | ["", "api-docs", "openapi.json"] => some description
  | ["", "swagger-ui"] => some pages
  | "" :: "swagger-ui" :: _ :: _ => some pageFile
  | _ => none

def ofTarget? (t : Target) : Option Resource := ofSegments? t.segments

/-- The methods of a resource.  What can be got can be asked for without its body. -/
def methods : Resource → List Method
  | events => [.get, .head, .post]
  | sessions _ => [.post]
  | _ => [.get, .head]

/-- Whether a resource is served under the deadline and in the client's coding; the probes of the
operators are not. -/
def isBounded : Resource → Bool
  | health => false
  | readiness => false
  | _ => true

end Resource

end EventCatalog.Api
