import EventCatalog.Proofs.Mongo.Aggregation

/-!
# What a listing selects

The rows that a filter asks for, said without stages: the event documents that satisfy every
criterion of the filter, in the order of the sort field and then of the identifiers, cut to the
asked page, each with its sessions.

A field counts as a value when it is that value or an array with that value in it, which is how the
database reads conditions on stored documents.
-/

namespace EventCatalog

open Mongo

namespace Document

/-- The values that a field offers to conditions. -/
def offered (d : Document) (name : String) : List Bson := (d.get? name).toList.flatMap Bson.offered

/-- Whether a field is a value, or an array with it. -/
def has (d : Document) (name : String) (v : Bson) : Bool := (d.offered name).any (·.key = v.key)

/-- Whether a field is a value of the kind of `v` whose key compares with that of `v` as asked, or
an array with such a value. -/
def hasSuch (d : Document) (name : String) (v : Bson) (asked : List Int → List Int → Bool) : Bool :=
  (d.offered name).any fun w ↦ w.kind = v.kind && asked w.key v.key

/-- Whether the location has an array of coordinates. -/
def hasCoordinates (d : Document) : Bool :=
  (Bson.valuesAt ["location", "coordinates"] (.document d)).any Bson.isArray

/-- The keys of some fields, by which documents are sorted. -/
def rank (order : SortOrder) (names : List String) (d : Document) : List (List Int) :=
  names.map fun name ↦ d.sortKey order name

/-- Documents in the order of some fields. -/
def sorted (order : SortOrder) (names : List String) (rows : List Document) : List Document :=
  rows.insertionSort fun a b ↦ order.le (a.rank order names) (b.rank order names)

end Document

/-- Whether an identifier stands behind another one in a direction. -/
def SortOrder.isBeyond (order : SortOrder) (boundary : Uuid) (d : Document) : Bool :=
  d.hasSuch "_id" (.ofUuid boundary) fun w v ↦ order.lt v w

/-- Whether a session starts within the bounds of a window.  Without a bound the database is asked
for an empty document in place of a start; `SessionWindow.ofBounds` makes no such window. -/
def SessionWindow.includes (w : SessionWindow) (session : Document) : Bool :=
  if w.earliest.isNone && w.latest.isNone then session.has "start_time" (.document [])
  else
    w.earliest.all (fun t ↦ session.hasSuch "start_time" (.ofInstant t) fun w v ↦ v ≤ w) &&
      w.latest.all fun t ↦ session.hasSuch "start_time" (.ofInstant t) fun w v ↦ w ≤ v

namespace Mongo.Database

variable (db : Database)

/-- Whether a text is found in a field, in either case. -/
def findsIn (name text : String) (d : Document) : Bool :=
  (d.offered name).any fun
    | .string s => db.matchesPattern (Text.escapePattern text) "i" s
    | _ => false

/-- The sessions of an event document, by their start: those that start within a window, if there is
one. -/
def sessionsOf (window : Option SessionWindow) (event : Document) : List Document :=
  Document.sorted .ascending ["start_time", "_id"] <|
    (db.documents sessionsCollection).filter fun s ↦
      ((s.get? "event_id").map Bson.key = (event.get? "_id").map Bson.key) &&
        window.all (·.includes s)

/-- An event document with its sessions. -/
def withSessions (window : Option SessionWindow) (event : Document) : Document :=
  event.set "sessions" (.array ((db.sessionsOf window event).map .document))

end Mongo.Database

namespace EventFilter

variable (f : EventFilter) (audience : Audience) (settings : PageSettings)

/-- The status that is asked for; everyone sees published events only. -/
def wantedStatus : Option EventStatus :=
  match audience with
  | .everyone => some .published
  | .console => f.status

/-- The visibility that is asked for. -/
def wantedVisibility : Option EventVisibility :=
  match audience with
  | .everyone => some .everyone
  | .console => f.visibility

/-- The circle that is asked for, with its radius in radians. -/
def wantedArea : Option Area :=
  f.circle.map fun c ↦
    ⟨c.lng, c.lat, (effectiveRadius c.radius settings.defaultRadius).div earthRadius⟩

/-- Whether an event document satisfies all criteria of a filter that concern the event itself. -/
def admits (db : Database) (d : Document) : Bool :=
  f.tenantId.all (fun t ↦ d.has "tenant_id" (.string t)) &&
    (f.wantedStatus audience).all (fun s ↦ d.has "status" (.string s.name)) &&
    (f.wantedVisibility audience).all (fun v ↦ d.has "visibility" (.string v.name)) &&
    f.eventId.all (fun id ↦ d.has "_id" (.ofUuid id)) &&
    f.search.all (fun text ↦ db.findsIn "title" text d || db.findsIn "detail" text d) &&
    (f.wantedArea settings).all (fun a ↦ (d.get? "location").any (db.liesWithin a)) &&
    d.hasCoordinates

/-- Whether an event document has a session in the window, where one is asked for. -/
def admitsSessions (db : Database) (d : Document) : Bool :=
  f.sessionWindow.all fun w ↦ !(db.sessionsOf (some w) d).isEmpty

/-- The event documents that match, in the asked order. -/
def matching (db : Database) (boundary : Option Uuid) : List Document :=
  Document.sorted f.sortOrder [f.sortBy.name, "_id"] <|
    (db.documents eventsCollection).filter fun d ↦
      f.admits audience settings db d && boundary.all (f.sortOrder.isBeyond · d) &&
        f.admitsSessions db d

/-- The part of the matching rows that is fetched.  With a token it is one row more than the page
has. -/
def fetched (cursor : Option Cursor) (rows : List α) : List α :=
  if cursor.isSome then rows.take (min (max f.limit 1 + 1) Bson.maxInt64)
  else (rows.drop (min f.offset Bson.maxInt64)).take (min (max f.limit 1) Bson.maxInt64)

/-- The rows that a filter asks for, when its token stands for `cursor`. -/
def reference (db : Database) (cursor : Option Cursor) : List Document :=
  (f.fetched cursor (f.matching audience settings db (cursor.bind (·.lastId)))).map
    (db.withSessions f.sessionWindow)

end EventFilter

end EventCatalog
