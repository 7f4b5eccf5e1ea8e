import EventCatalog.Bson.Basic
import EventCatalog.Query.Filter
import EventCatalog.Text.Pattern

/-!
# Query Plans

A plan is the list of stages that fetch a page: select events, join their sessions, drop events
without sessions when a window asks for it, sort, skip and limit.  Sorting goes by one field and
then by identifier, so that pages are determined even where the field is the same.

A page follows either an offset or a token.  With a token the rows after its identifier are
selected, and one more row than asked is fetched, which tells whether another page exists.
-/

namespace EventCatalog

/-- The equatorial radius of the earth in meters, which turns meters into radians. -/
def earthRadius : Binary64 := Binary64.ofNat 6378100

/-- A circle on the globe; the radius is in radians. -/
structure Area where
  lng : Binary64
  lat : Binary64
  radians : Binary64
  deriving DecidableEq, Repr

/-- The conditions on an event, all of which have to hold. -/
structure Selection where
  tenantId : Option String
  status : Option EventStatus
  visibility : Option EventVisibility
  eventId : Option Uuid
  /-- The rows after an identifier in a direction. -/
  boundary : Option (SortOrder × Uuid)
  /-- A text that the title or the detail contains, in either case. -/
  search : Option String
  area : Option Area
  deriving DecidableEq, Repr

inductive Stage where
  | select (selection : Selection)
  /-- Joins the sessions of each event, those that start in a window only when there is one. -/
  | joinSessions (window : Option SessionWindow)
  | requireSessions
  | sort (field : SortField) (order : SortOrder)
  | skip (count : Nat)
  | limit (count : Nat)
  deriving DecidableEq, Repr

/-- The stages that fetch a page, and what is needed to describe it. -/
structure Plan where
  stages : List Stage
  /-- The size of the page that was asked for. -/
  limit : Nat
  offset : Nat
  /-- The position of the token that is followed. -/
  cursor : Option Cursor
  deriving DecidableEq, Repr

namespace Selection

/-- The conditions of a filter for an audience.  For everyone, status and visibility are fixed. -/
def ofFilter (f : EventFilter) (audience : Audience) (cursor : Option Cursor)
    (configuredRadius : Option Binary64) : Selection where
  tenantId := f.tenantId
  status := match audience with
    | .everyone => some .published
    | .console => f.status
  visibility := match audience with
    | .everyone => some .everyone
    | .console => f.visibility
  eventId := f.eventId
  boundary := (cursor.bind (·.lastId)).map fun id ↦ (f.sortOrder, id)
  search := f.search
  area := f.circle.map fun c ↦
    ⟨c.lng, c.lat, (effectiveRadius c.radius configuredRadius).div earthRadius⟩

end Selection

namespace Plan

/-- Whether pages follow a token rather than an offset. -/
def isCursorMode (p : Plan) : Bool := p.cursor.isSome

/-- The cursor of a filter's token. -/
def cursorOf (f : EventFilter) : Except EventError (Option Cursor) :=
  match f.pageToken with
  | none => .ok none
  | some token =>
    match Cursor.decode token with
    | .ok cursor => .ok (some cursor)
    | .error fault => .error (.ofCursorFault fault)

/-- The plan of a filter whose token stands for `cursor`. -/
def ofCursor (f : EventFilter) (audience : Audience) (configuredRadius : Option Binary64)
    (cursor : Option Cursor) : Plan :=
  let limit := max f.limit 1
  let offset := if cursor.isSome then 0 else f.offset
  { stages :=
      [.select (Selection.ofFilter f audience cursor configuredRadius),
        .joinSessions f.sessionWindow] ++
      (if f.sessionWindow.isSome then [.requireSessions] else []) ++
      [.sort f.sortBy f.sortOrder] ++
      (if 0 < offset then [.skip offset] else []) ++
      [.limit (if cursor.isSome then min (limit + 1) Text.max64 else limit)]
    limit
    offset
    cursor }

/-- The plan of a filter for an audience. -/
def ofFilter (f : EventFilter) (audience : Audience) (settings : PageSettings) :
    Except EventError Plan := do
  return ofCursor f audience settings.defaultRadius (← cursorOf f)

end Plan

end EventCatalog
