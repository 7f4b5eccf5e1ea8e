import EventCatalog.Binary64.Basic
import EventCatalog.Instant.Basic
import EventCatalog.Uuid

/-!
# Events and Sessions

An event belongs to a tenant and takes place in sessions.  It has a lifecycle status, a visibility
on the public listing, and a location, for which the point (0, 0) stands when there is none.
-/

namespace EventCatalog

inductive EventStatus where
  | draft
  | published
  | archived
  deriving DecidableEq, Repr, Inhabited

def EventStatus.name : EventStatus → String
  | draft => "draft"
  | published => "published"
  | archived => "archived"

def EventStatus.byName : List (String × EventStatus) :=
  [.draft, .published, .archived].map fun s ↦ (s.name, s)

/-- Who may see an event on the public listing. -/
inductive EventVisibility where
  | everyone
  | tenantOnly
  deriving DecidableEq, Repr

instance : Inhabited EventVisibility := ⟨.tenantOnly⟩

def EventVisibility.name : EventVisibility → String
  | everyone => "public"
  | tenantOnly => "private"

def EventVisibility.byName : List (String × EventVisibility) :=
  [.everyone, .tenantOnly].map fun v ↦ (v.name, v)

structure Point where
  lng : Binary64
  lat : Binary64
  deriving DecidableEq, Repr

namespace Point

/-- The point that stands for no location. -/
def nowhere : Point := ⟨Binary64.zero, Binary64.zero⟩

/-- Whether a point stands for no location; the signs of its zeros do not matter. -/
def isNowhere (p : Point) : Bool := p.lng.eq Binary64.zero && p.lat.eq Binary64.zero

instance : Inhabited Point := ⟨nowhere⟩

end Point

/-- A question and its answer on the page of an event. -/
structure FaqEntry where
  question : String
  answer : String
  deriving DecidableEq, Repr, Inhabited

/-- A scheduled occurrence of an event. -/
structure Session where
  id : Uuid
  eventId : Uuid
  name : Option String
  /-- The number of places; without one there is no limit. -/
  capacity : Option Nat
  startTime : Instant
  endTime : Instant
  createdAt : Instant
  updatedAt : Instant
  deriving DecidableEq, Repr, Inhabited

/-- An event.  Its sessions are stored apart and joined to it when it is read through a plan. -/
structure Event where
  id : Uuid
  tenantId : String
  status : EventStatus
  visibility : EventVisibility
  title : String
  location : Point
  detail : String
  faq : List FaqEntry
  createdAt : Instant
  updatedAt : Instant
  createdBy : Option String
  updatedBy : Option String
  sessions : List Session
  deriving DecidableEq, Repr, Inhabited

end EventCatalog
