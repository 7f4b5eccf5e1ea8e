import EventCatalog.Event.Basic
import EventCatalog.Instant.Printer
import EventCatalog.Json.Basic

/-!
# Events and Sessions as Answers

The JSON in which clients see events and sessions.  Members without a value are left out; times keep
their full precision.
-/

namespace EventCatalog

def Uuid.toJson (id : Uuid) : Json := .string (toString id)

def Instant.toJson (t : Instant) : Json := .string (toString t)

def Point.toJson (p : Point) : Json := .object [("lng", .float p.lng), ("lat", .float p.lat)]

def FaqEntry.toJson (e : FaqEntry) : Json :=
  .object [("question", e.question), ("answer", e.answer)]

def Session.toJson (s : Session) : Json :=
  .object ([("id", s.id.toJson), ("event_id", s.eventId.toJson)] ++
    Json.optionalMember "name" (s.name.map .string) ++
    Json.optionalMember "capacity" (s.capacity.map fun n ↦ Json.int n) ++
    [("start_time", s.startTime.toJson), ("end_time", s.endTime.toJson),
      ("created_at", s.createdAt.toJson), ("updated_at", s.updatedAt.toJson)])

/-- An event with its sessions as a JSON object. -/
def Event.toJson (e : Event) : Json :=
  .object ([("id", e.id.toJson), ("tenant_id", .string e.tenantId),
      ("status", .string e.status.name), ("visibility", .string e.visibility.name),
      ("title", .string e.title), ("location", e.location.toJson), ("detail", .string e.detail),
      ("faq", .array (e.faq.map FaqEntry.toJson)), ("created_at", e.createdAt.toJson),
      ("updated_at", e.updatedAt.toJson)] ++
    Json.optionalMember "created_by" (e.createdBy.map .string) ++
    Json.optionalMember "updated_by" (e.updatedBy.map .string) ++
    [("sessions", .array (e.sessions.map Session.toJson))])

end EventCatalog
