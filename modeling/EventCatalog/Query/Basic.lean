import EventCatalog.Json.Decoder
import EventCatalog.Query.Filter
import EventCatalog.Text.Blank
import EventCatalog.Text.Form
import EventCatalog.Validation

/-!
# Queries

The parameters of a listing as a client sends them, in a query string or as a JSON record, and the
filter that they ask for.  A page number wins over an offset and over a token; `page_size` wins over
`limit`.  Blank texts count as absent.
-/

namespace EventCatalog

/-- The parameters of a listing, each of which may be absent. -/
structure EventQuery where
  tenantId : Option String
  status : Option EventStatus
  visibility : Option EventVisibility
  /-- Looked for in titles and details. -/
  search : Option String
  lng : Option Binary64
  lat : Option Binary64
  /-- In meters. -/
  radius : Option Binary64
  sessionStartFrom : Option Instant
  sessionStartTo : Option Instant
  sortBy : Option SortField
  sortOrder : Option SortOrder
  limit : Option Nat
  offset : Option Nat
  /-- Counted from one. -/
  page : Option Nat
  /-- Another name of `limit`. -/
  pageSize : Option Nat
  pageToken : Option String
  deriving DecidableEq, Repr, Inhabited

namespace EventQuery

/-- A parameter: how its value is read from a text and from JSON. -/
structure Parameter where
  name : String
  ofText : EventQuery → String → Option EventQuery
  ofJson : EventQuery → Json.Decoder EventQuery

/-- A parameter with a reader for each form of its value. -/
def Parameter.of (name : String) (text : String → Option α) (json : Json.Decoder α)
    (set : EventQuery → Option α → EventQuery) : Parameter :=
  ⟨name, fun q s ↦ (text s).map fun a ↦ set q (some a),
    fun q r ↦ (Json.decodeOption json r).map (set q)⟩

def Parameter.text (name : String) (set : EventQuery → Option String → EventQuery) : Parameter :=
  .of name some Json.decodeString set

/-- A parameter that is a number, integral or not. -/
def Parameter.number (name : String) (set : EventQuery → Option Binary64 → EventQuery) :
    Parameter :=
  .of name (fun s ↦ (Binary64.read s).toOption) Json.decodeFloat set

/-- A parameter that is an unsigned number of 64 bits. -/
def Parameter.count (name : String) (set : EventQuery → Option Nat → EventQuery) : Parameter :=
  .of name (fun s ↦ (Text.readUnsigned Text.max64 s).toOption) (Json.decodeUnsigned Text.max64) set

def Parameter.instant (name : String) (set : EventQuery → Option Instant → EventQuery) :
    Parameter :=
  .of name Instant.ofString? (Json.decodeText Instant.ofString?) set

/-- A parameter that is one of finitely many names. -/
def Parameter.variant (name : String) (variants : List (String × α))
    (set : EventQuery → Option α → EventQuery) : Parameter :=
  .of name (fun s ↦ (variants.find? (·.1 = s)).map (·.2)) (Json.decodeVariant variants) set

def parameters : List Parameter :=
  [.text "tenant_id" fun q tenantId ↦ { q with tenantId },
    .variant "status" EventStatus.byName fun q status ↦ { q with status },
    .variant "visibility" EventVisibility.byName fun q visibility ↦ { q with visibility },
    .text "search" fun q search ↦ { q with search },
    .number "lng" fun q lng ↦ { q with lng },
    .number "lat" fun q lat ↦ { q with lat },
    .number "radius" fun q radius ↦ { q with radius },
    .instant "session_start_from" fun q sessionStartFrom ↦ { q with sessionStartFrom },
    .instant "session_start_to" fun q sessionStartTo ↦ { q with sessionStartTo },
    .variant "sort_by" SortField.byName fun q sortBy ↦ { q with sortBy },
    .variant "sort_order" SortOrder.byName fun q sortOrder ↦ { q with sortOrder },
    .count "limit" fun q limit ↦ { q with limit },
    .count "offset" fun q offset ↦ { q with offset },
    .count "page" fun q page ↦ { q with page },
    .count "page_size" fun q pageSize ↦ { q with pageSize },
    .text "page_token" fun q pageToken ↦ { q with pageToken }]

/-- The parameters of a form.  Unknown names are passed over; a known name may stand only once.
`seen` holds the names met so far. -/
def ofPairs : (seen : List String) → EventQuery → List (String × String) → Option EventQuery
  | _, q, [] => some q
  | seen, q, (name, value) :: rest =>
    match parameters.find? (·.name = name) with
    | none => ofPairs seen q rest
    | some p =>
      if seen.contains name then none
      else (p.ofText q value).bind fun q ↦ ofPairs (name :: seen) q rest

/-- The parameters of a query string. -/
def ofQueryString (bytes : List UInt8) : Except EventError EventQuery :=
  match ofPairs [] default (Text.formPairs bytes) with
  | some q => .ok q
  | none => .error (.validation "Failed to deserialize query string")

def decode : Json.Decoder EventQuery :=
  Json.decodeRecord (parameters.map fun p ↦ ⟨p.name, .named, p.ofJson⟩) default

def faults (q : EventQuery) : List Validation.Fault :=
  Validation.longitude "lng" q.lng ++ Validation.latitude "lat" q.lat ++
    Validation.rule "radius" "radius must be positive" Validation.isPositive q.radius

/-- The circle of the parameters: its center takes both a longitude and a latitude. -/
def circle (q : EventQuery) : Except EventError (Option Circle) :=
  match q.lng, q.lat with
  | some lng, some lat => .ok (some ⟨lng, lat, q.radius⟩)
  | none, none => .ok none
  | _, _ => .error (.validation "lng and lat must be provided together")

/-- The text, unless it is blank. -/
def nonBlank (s : Option String) : Option String := s.filter (!Text.isBlankText ·)

/-- Where the asked part of the listing starts: the offset, and the token when one is followed. -/
def start (q : EventQuery) (limit : Nat) : Nat × Option String :=
  match q.page with
  | some page => (min ((max page 1 - 1) * limit) Text.max64, none)
  | none => (q.offset.getD 0, nonBlank q.pageToken)

def toFilter (q : EventQuery) (settings : PageSettings) : Except EventError EventFilter := do
  Validation.check q.faults
  let circle ← q.circle
  let sessionWindow ← SessionWindow.ofBounds q.sessionStartFrom q.sessionStartTo
  let limit := settings.pageSize (q.pageSize <|> q.limit)
  let start := q.start limit
  return {
    tenantId := nonBlank q.tenantId
    eventId := none
    status := q.status
    visibility := q.visibility
    search := (nonBlank q.search).map Text.trim
    circle
    sessionWindow
    sortBy := q.sortBy.getD .createdAt
    sortOrder := q.sortOrder.getD .descending
    limit
    offset := start.1
    pageToken := start.2 }

end EventQuery

end EventCatalog
