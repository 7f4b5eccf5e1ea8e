import EventCatalog.Event.Basic
import EventCatalog.OpenApi.Operation
import EventCatalog.Query.Filter

/-!
# The Description of the Interface

The OpenAPI document of the application: the types of its messages and its five operations on
events.
-/

namespace EventCatalog.OpenApi

/-! ## Types -/

def eventListType : NamedSchema :=
  .record "EventListResponse" (some "Page of events with pagination metadata")
    [required "data" (.list (.named "EventResponse")), required "pagination" (.named "Pagination")]

def eventType : NamedSchema :=
  .record "EventResponse" (some "Event with its sessions as returned by the API")
    [required "id" .uuid, required "tenant_id" .string, required "status" (.named "EventStatus"),
      required "visibility" (.named "EventVisibility"), required "title" .string,
      required "location" (.named "Location"), required "detail" .string,
      required "faq" (.list (.named "FaqEntry")), required "created_at" .dateTime,
      required "updated_at" .dateTime, optional "created_by" .string, optional "updated_by" .string,
      required "sessions" (.list (.named "SessionResponse"))]

def sessionType : NamedSchema :=
  .record "SessionResponse" (some "Session as returned by the API")
    [required "id" .uuid, required "event_id" .uuid, optional "name" .string,
      optional "capacity" .unsigned32, required "start_time" .dateTime,
      required "end_time" .dateTime, required "created_at" .dateTime,
      required "updated_at" .dateTime]

def eventDraftType : NamedSchema :=
  .record "CreateEvent" (some "DTO for creating an event")
    [required "title" .string, optional "status" (.named "EventStatus"),
      optional "visibility" (.named "EventVisibility"),
      optional "location" (.named "Location") (some "Omitted location is stored as (0, 0)"),
      optional "detail" .string, defaulted "faq" (.list (.named "FaqEntry"))]

def sessionDraftType : NamedSchema :=
  .record "CreateSession" (some "DTO for adding a session to an event")
    [optional "name" .string, optional "capacity" .unsigned32, required "start_time" .dateTime,
      required "end_time" .dateTime]

def locationType : NamedSchema :=
  .record "Location" (some "Longitude/latitude pair as accepted on the wire")
    [required "lng" .double, required "lat" .double]

def faqEntryType : NamedSchema :=
  .record "FaqEntry" (some "One question/answer pair shown on the event page")
    [required "question" .string, required "answer" .string]

def statusType : NamedSchema :=
  .enumeration "EventStatus" (some "Event lifecycle status") (EventStatus.byName.map (·.1))

def visibilityType : NamedSchema :=
  .enumeration "EventVisibility" (some "Who may see an event on the public listing")
    (EventVisibility.byName.map (·.1))

def sortFieldType : NamedSchema :=
  .enumeration "SortField" (some "Sortable event fields") (SortField.byName.map (·.1))

def sortOrderType : NamedSchema :=
  .enumeration "SortOrder" none (SortOrder.byName.map (·.1))

def paginationType : NamedSchema :=
  .record "Pagination" (some "Pagination metadata returned with every page")
    [optional "next_token" .string (some "Token for the following page, absent on the last page"),
      optional "prev_token" .string, required "has_next" .boolean, required "has_prev" .boolean,
      optional "total_count" .unsigned64, optional "current_page" .unsigned32 (some "1-based"),
      optional "total_pages" .unsigned32]

/-- The remark on the error type, which shows an example. -/
def errorNote : String :=
  "\n".intercalate ["Error body returned by every events endpoint", "", "\x60\x60\x60json",
    "\x7b", "  \"code\": 400,", "  \"error\": \"INVALID_CURSOR\",",
    "  \"message\": \"Invalid pagination token: token is not valid base64\"", "\x7d",
    "\x60\x60\x60"]

def errorType : NamedSchema :=
  .record "ErrorResponse" (some errorNote)
    [required "code" .unsigned32 (some "HTTP status code"),
      required "error" .string (some "Machine-readable error identifier"),
      required "message" .string (some "Human-readable error message")]

def types : List NamedSchema :=
  [eventListType, eventType, sessionType, eventDraftType, sessionDraftType, locationType,
    faqEntryType, statusType, visibilityType, sortFieldType, sortOrderType, paginationType,
    errorType]

/-! ## Operations -/

/-- A parameter of a listing. -/
def queryParameter (name : String) (type : ValueType) (note : Option String := none) : Parameter :=
  ⟨name, .query, false, type, note⟩

def listParameters : List Parameter :=
  [queryParameter "tenant_id" .string
      (some "Narrows the public listing to one tenant; ignored on the console"),
    queryParameter "status" (.named "EventStatus"),
    queryParameter "visibility" (.named "EventVisibility"),
    queryParameter "search" .string (some "Case-insensitive match on title and detail"),
    queryParameter "lng" .double, queryParameter "lat" .double,
    queryParameter "radius" .double (some "Meters"),
    queryParameter "session_start_from" .dateTime
      (some "Keep events with a session starting at or after this instant"),
    queryParameter "session_start_to" .dateTime
      (some "Keep events with a session starting at or before this instant"),
    queryParameter "sort_by" (.named "SortField"), queryParameter "sort_order" (.named "SortOrder"),
    queryParameter "limit" .unsigned64, queryParameter "offset" .unsigned64,
    queryParameter "page" .unsigned64
      (some "1-based page number; clears \x60page_token\x60 when present"),
    queryParameter "page_size" .unsigned64
      (some "Alias of \x60limit\x60, takes precedence over it"),
    queryParameter "page_token" .string
      (some "Opaque token from a previous response's \x60next_token\x60")]

def tenantParameter : Parameter := ⟨"x-tenant-id", .header, true, .string, some "Tenant id"⟩

def actorParameter : Parameter :=
  ⟨"x-actor-id", .header, false, .string, some "User performing the change"⟩

def idParameter : Parameter := ⟨"id", .path, true, .uuid, some "Event id"⟩

def failure : ResponseSchema := ⟨500, "Internal error", "ErrorResponse"⟩
def missing : ResponseSchema := ⟨404, "Event not found", "ErrorResponse"⟩
def invalid : ResponseSchema := ⟨400, "Validation error", "ErrorResponse"⟩

def listResponses : List ResponseSchema :=
  [⟨200, "Page of events", "EventListResponse"⟩,
    ⟨400, "Invalid filter or pagination token", "ErrorResponse"⟩, failure]

def listEvents : Operation :=
  ⟨"list_console_events", "List a tenant's events", "events", tenantParameter :: listParameters,
    none, listResponses⟩

def listPublicEvents : Operation :=
  ⟨"list_public_events", "List published public events", "events", listParameters, none,
    listResponses⟩

def showEvent : Operation :=
  ⟨"get_event", "Get one event with its sessions", "events", [tenantParameter, idParameter], none,
    [⟨200, "Event found", "EventResponse"⟩, missing, failure]⟩

def createEvent : Operation :=
  ⟨"create_event", "Create an event", "events", [tenantParameter, actorParameter],
    some "CreateEvent", [⟨201, "Event created", "EventResponse"⟩, invalid, failure]⟩

def createSession : Operation :=
  ⟨"create_session", "Add a session to an event", "events", [tenantParameter, idParameter],
    some "CreateSession", [⟨201, "Session created", "SessionResponse"⟩, invalid, missing, failure]⟩

/-- The paths with the methods that they have. -/
def paths : List (String × List (String × Operation)) :=
  [("/api/console/events", [("get", listEvents), ("post", createEvent)]),
    ("/api/console/events/\x7bid\x7d", [("get", showEvent)]),
    ("/api/console/events/\x7bid\x7d/sessions", [("post", createSession)]),
    ("/api/public/events", [("get", listPublicEvents)])]

/-! ## Document -/

def info : Json :=
  .object [("title", "Events API"),
    ("description", "Tenant console and public listing of events and their sessions"),
    ("license", .object [("name", "MIT")]), ("version", "0.1.0")]

def document : Json :=
  .object [("openapi", "3.1.0"), ("info", info),
    ("servers", .array [.object [("url", "http://localhost:8080"),
      ("description", "Local development server")]]),
    ("paths", .object (paths.map fun p ↦ (p.1, .object (p.2.map fun o ↦ (o.1, o.2.toJson))))),
    ("components", .object [("schemas", .object (types.map fun t ↦ (t.name, t.toJson)))]),
    ("tags", .array [.object [("name", "events"),
      ("description", "Event queries with cursor and offset pagination")]])]

end EventCatalog.OpenApi
