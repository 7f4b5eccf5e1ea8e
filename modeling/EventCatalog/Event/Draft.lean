import EventCatalog.Event.Basic
import EventCatalog.Instant.Reader
import EventCatalog.Json.Decoder
import EventCatalog.Validation

/-!
# Drafts of Events and Sessions

What a client sends to create an event or a session, the rules it has to keep, and the event or
session made from it.  Whoever makes one supplies the current time and a fresh identifier.
-/

namespace EventCatalog

namespace Point

def inputFields : List (Json.Field Point) :=
  [.of "lng" .required Json.decodeFloat fun p lng ↦ { p with lng },
    .of "lat" .required Json.decodeFloat fun p lat ↦ { p with lat }]

/-- A point on the globe has a longitude and a latitude. -/
def faults (path : String) (p : Point) : List Validation.Fault :=
  Validation.longitude (path ++ ".lng") (some p.lng) ++
    Validation.latitude (path ++ ".lat") (some p.lat)

end Point

def FaqEntry.inputFields : List (Json.Field FaqEntry) :=
  [.of "question" .required Json.decodeString fun e question ↦ { e with question },
    .of "answer" .required Json.decodeString fun e answer ↦ { e with answer }]

structure EventDraft where
  title : String
  status : Option EventStatus
  visibility : Option EventVisibility
  location : Option Point
  detail : Option String
  faq : List FaqEntry
  deriving DecidableEq, Repr, Inhabited

namespace EventDraft

/-- The fields of a request for a new event; all but the title have defaults. -/
def fields : List (Json.Field EventDraft) :=
  [.of "title" .required Json.decodeString fun d title ↦ { d with title },
    .of "status" .defaulted (Json.decodeOption (Json.decodeVariant EventStatus.byName))
      fun d status ↦ { d with status },
    .of "visibility" .defaulted (Json.decodeOption (Json.decodeVariant EventVisibility.byName))
      fun d visibility ↦ { d with visibility },
    .of "location" .defaulted
      (Json.decodeOption (Json.decodeRecord Point.inputFields default))
      fun d location ↦ { d with location },
    .of "detail" .defaulted (Json.decodeOption Json.decodeString) fun d detail ↦ { d with detail },
    .of "faq" .defaulted (Json.decodeList (Json.decodeRecord FaqEntry.inputFields default))
      fun d faq ↦ { d with faq }]

def decode : Json.Decoder EventDraft := Json.decodeRecord fields default

def faults (d : EventDraft) : List Validation.Fault :=
  Validation.rule "title" "Title must be 1-255 characters"
      (fun s : String ↦ 1 ≤ s.length && s.length ≤ 255) (some d.title) ++
    match d.location with
    | some p => p.faults "location"
    | none => []

/-- The event of a request: a private draft unless asked otherwise, at no location unless one is
given. -/
def toEvent (d : EventDraft) (tenantId : String) (actor : Option String) (now : Instant)
    (id : Uuid) : Event where
  id
  tenantId
  status := d.status.getD .draft
  visibility := d.visibility.getD .tenantOnly
  title := d.title
  location := d.location.getD Point.nowhere
  detail := d.detail.getD ""
  faq := d.faq
  createdAt := now
  updatedAt := now
  createdBy := actor
  updatedBy := actor
  sessions := []

end EventDraft

structure SessionDraft where
  name : Option String
  capacity : Option Nat
  startTime : Instant
  endTime : Instant
  deriving DecidableEq, Repr, Inhabited

namespace SessionDraft

def fields : List (Json.Field SessionDraft) :=
  [.of "name" .defaulted (Json.decodeOption Json.decodeString) fun d name ↦ { d with name },
    .of "capacity" .defaulted (Json.decodeOption (Json.decodeUnsigned Text.max32))
      fun d capacity ↦ { d with capacity },
    .of "start_time" .required (Json.decodeText Instant.ofString?)
      fun d startTime ↦ { d with startTime },
    .of "end_time" .required (Json.decodeText Instant.ofString?)
      fun d endTime ↦ { d with endTime }]

def decode : Json.Decoder SessionDraft := Json.decodeRecord fields default

def faults (d : SessionDraft) : List Validation.Fault :=
  Validation.rule "name" "Name must be at most 255 characters"
      (fun s : String ↦ s.length ≤ 255) d.name ++
    Validation.rule "capacity" "Capacity must be at least 1" (fun n : Nat ↦ 1 ≤ n) d.capacity

def toSession (d : SessionDraft) (eventId : Uuid) (now : Instant) (id : Uuid) : Session where
  id
  eventId
  name := d.name
  capacity := d.capacity
  startTime := d.startTime
  endTime := d.endTime
  createdAt := now
  updatedAt := now

end SessionDraft

end EventCatalog
