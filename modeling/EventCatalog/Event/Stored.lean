import EventCatalog.Bson.Decoder
import EventCatalog.Event.Basic

/-!
# Stored Events and Sessions

The documents of events and sessions, and the events that documents hold.  Sessions are no part of
an event's own document; a document that a plan delivers has them joined to it.  Times are stored to
the millisecond.  Fields that older documents may lack have defaults.
-/

namespace EventCatalog

namespace Point

def toBson (p : Point) : Bson :=
  .document [("type", "Point"), ("coordinates", .array [.double p.lng, .double p.lat])]

def fields : List (Bson.Field Point) :=
  [.of "type" true (Bson.decodeVariant [("Point", ())]) fun p _ ↦ p,
    .of "coordinates" true (Bson.decodePair Bson.decodeFloat) fun _ c ↦ ⟨c.1, c.2⟩]

end Point

namespace FaqEntry

def toBson (e : FaqEntry) : Bson :=
  .document [("question", e.question), ("answer", e.answer)]

def fields : List (Bson.Field FaqEntry) :=
  [.of "question" true Bson.decodeString fun e s ↦ { e with question := s },
    .of "answer" true Bson.decodeString fun e s ↦ { e with answer := s }]

end FaqEntry

namespace Session

def toDocument (s : Session) : Document :=
  [("_id", .ofUuid s.id), ("event_id", .ofUuid s.eventId), ("name", .ofOptionalString s.name),
    ("capacity", (s.capacity.map fun n ↦ Bson.int64 n).getD .null),
    ("start_time", .ofInstant s.startTime), ("end_time", .ofInstant s.endTime),
    ("created_at", .ofInstant s.createdAt), ("updated_at", .ofInstant s.updatedAt)]

def fields : List (Bson.Field Session) :=
  [.of "_id" true Bson.decodeUuid fun s id ↦ { s with id },
    .of "event_id" true Bson.decodeUuid fun s eventId ↦ { s with eventId },
    .of "name" false (Bson.decodeOption Bson.decodeString) fun s name ↦ { s with name },
    .of "capacity" false (Bson.decodeOption (Bson.decodeUnsigned Text.max32))
      fun s capacity ↦ { s with capacity },
    .of "start_time" true Bson.decodeInstant fun s startTime ↦ { s with startTime },
    .of "end_time" true Bson.decodeInstant fun s endTime ↦ { s with endTime },
    .of "created_at" true Bson.decodeInstant fun s createdAt ↦ { s with createdAt },
    .of "updated_at" true Bson.decodeInstant fun s updatedAt ↦ { s with updatedAt }]

/-- The session of a stored value. -/
def ofBson? : Bson → Option Session := Bson.decodeRecord fields default

end Session

namespace Event

def toDocument (e : Event) : Document :=
  [("_id", .ofUuid e.id), ("tenant_id", e.tenantId), ("status", e.status.name),
    ("visibility", e.visibility.name), ("title", e.title), ("location", e.location.toBson),
    ("detail", e.detail), ("faq", .array (e.faq.map FaqEntry.toBson)),
    ("created_at", .ofInstant e.createdAt), ("updated_at", .ofInstant e.updatedAt),
    ("created_by", .ofOptionalString e.createdBy), ("updated_by", .ofOptionalString e.updatedBy)]

/-- The fields of a stored event with its joined sessions. -/
def fields : List (Bson.Field Event) :=
  [.of "_id" true Bson.decodeUuid fun e id ↦ { e with id },
    .of "tenant_id" true Bson.decodeString fun e tenantId ↦ { e with tenantId },
    .of "status" false (Bson.decodeVariant EventStatus.byName) fun e status ↦ { e with status },
    .of "visibility" false (Bson.decodeVariant EventVisibility.byName)
      fun e visibility ↦ { e with visibility },
    .of "title" true Bson.decodeString fun e title ↦ { e with title },
    .of "location" false (Bson.decodeRecord Point.fields default)
      fun e location ↦ { e with location },
    .of "detail" false Bson.decodeString fun e detail ↦ { e with detail },
    .of "faq" false (Bson.decodeList (Bson.decodeRecord FaqEntry.fields default))
      fun e faq ↦ { e with faq },
    .of "created_at" true Bson.decodeInstant fun e createdAt ↦ { e with createdAt },
    .of "updated_at" true Bson.decodeInstant fun e updatedAt ↦ { e with updatedAt },
    .of "created_by" false (Bson.decodeOption Bson.decodeString)
      fun e createdBy ↦ { e with createdBy },
    .of "updated_by" false (Bson.decodeOption Bson.decodeString)
      fun e updatedBy ↦ { e with updatedBy },
    .of "sessions" false (Bson.decodeList Session.ofBson?) fun e sessions ↦ { e with sessions }]

/-- The event of a document that a plan delivers. -/
def ofDocument? (d : Document) : Option Event := Bson.decodeRecord fields default (.document d)

end Event

end EventCatalog
