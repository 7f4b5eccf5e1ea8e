import EventCatalog.Error
import EventCatalog.Event.Basic

/-!
# Filters

What a listing selects, how it is sorted and which part of it is asked for, after the request has
been read and normalized.
-/

namespace EventCatalog

/-- Which listing a query is served for. -/
inductive Audience where
  /-- A tenant's own events. -/
  | console
  /-- Published events that everyone may see. -/
  | everyone
  deriving DecidableEq, Repr, Inhabited

def Audience.name : Audience → String
  | console => "console"
  | everyone => "public"

/-- The fields by which events can be sorted. -/
inductive SortField where
  | createdAt
  | updatedAt
  | title
  deriving DecidableEq, Repr, Inhabited

/-- The name of a sort field, which is also its name in stored documents. -/
def SortField.name : SortField → String
  | createdAt => "created_at"
  | updatedAt => "updated_at"
  | title => "title"

def SortField.byName : List (String × SortField) :=
  [.createdAt, .updatedAt, .title].map fun f ↦ (f.name, f)

inductive SortOrder where
  | ascending
  | descending
  deriving DecidableEq, Repr

instance : Inhabited SortOrder := ⟨.descending⟩

namespace SortOrder

def name : SortOrder → String
  | ascending => "asc"
  | descending => "desc"

def byName : List (String × SortOrder) :=
  [.ascending, .descending].map fun o ↦ (o.name, o)

/-- The sign of a direction. -/
def direction : SortOrder → Int
  | ascending => 1
  | descending => -1

/-- The comparison that selects the rows after a boundary in this direction. -/
def boundaryOperator : SortOrder → String
  | ascending => "$gt"
  | descending => "$lt"

end SortOrder

/-- A circle on the globe; the radius is in meters. -/
structure Circle where
  lng : Binary64
  lat : Binary64
  radius : Option Binary64
  deriving DecidableEq, Repr

/-- The radius in meters when neither the request nor the configuration has a usable one. -/
def defaultRadius : Binary64 := Binary64.ofNat 1000

/-- Whether a radius is a positive number of meters. -/
def isUsableRadius (r : Binary64) : Bool := r.isFinite && Binary64.zero.lt r

/-- The radius in meters: the requested one, else the configured one, else the default; what is no
positive finite number is passed over. -/
def effectiveRadius (requested configured : Option Binary64) : Binary64 :=
  (requested.filter isUsableRadius <|> configured.filter isUsableRadius).getD defaultRadius

/-- Inclusive bounds on the start of a session. -/
structure SessionWindow where
  earliest : Option Instant
  latest : Option Instant
  deriving DecidableEq, Repr

/-- The window of two optional bounds: none without a bound, and an error when they are out of
order. -/
def SessionWindow.ofBounds (earliest latest : Option Instant) :
    Except EventError (Option SessionWindow) :=
  match earliest, latest with
  | none, none => .ok none
  | some e, some l =>
    if l < e then
      .error (.validation "session_start_from must not be later than session_start_to")
    else .ok (some ⟨some e, some l⟩)
  | earliest, latest => .ok (some ⟨earliest, latest⟩)

/-- Page sizes and the radius of a deployment. -/
structure PageSettings where
  defaultPageSize : Nat
  maxPageSize : Nat
  /-- In meters, for circles without a radius. -/
  defaultRadius : Option Binary64
  deriving DecidableEq, Repr

namespace PageSettings

/-- The settings of a deployment that says nothing about them. -/
def standard : PageSettings := ⟨20, 100, none⟩

/-- The size of a page: the requested one, or the default when none or zero is requested, within one
and the largest size. -/
def pageSize (s : PageSettings) (requested : Option Nat) : Nat :=
  let wanted := (requested.filter (0 < ·)).getD s.defaultPageSize
  min (max wanted 1) (max s.maxPageSize 1)

end PageSettings

/-- A normalized request for a part of a listing. -/
structure EventFilter where
  tenantId : Option String
  /-- Selects a single event. -/
  eventId : Option Uuid
  status : Option EventStatus
  visibility : Option EventVisibility
  search : Option String
  circle : Option Circle
  sessionWindow : Option SessionWindow
  sortBy : SortField
  sortOrder : SortOrder
  limit : Nat
  offset : Nat
  pageToken : Option String
  deriving DecidableEq, Repr

namespace EventFilter

/-- The first twenty events of all, newest first. -/
def everything : EventFilter :=
  ⟨none, none, none, none, none, none, none, .createdAt, .descending, 20, 0, none⟩

instance : Inhabited EventFilter := ⟨everything⟩

def forTenant (tenantId : String) : EventFilter := { everything with tenantId := some tenantId }

/-- The filter with another page size, at least one. -/
def withLimit (f : EventFilter) (limit : Nat) : EventFilter := { f with limit := max limit 1 }

/-- Whether pages follow a token rather than an offset. -/
def isCursorMode (f : EventFilter) : Bool := f.pageToken.isSome

end EventFilter

end EventCatalog
