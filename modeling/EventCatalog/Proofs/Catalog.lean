import EventCatalog.Mongo.Repository
import EventCatalog.Proofs.Event.Stored
import EventCatalog.Proofs.Plan.Compilation
import Mathlib.Data.Prod.Lex

/-!
# Catalogs

A catalog is a store that holds events and sessions as the service writes them.  What a filter
selects is said here about events rather than about documents, and shown to be what the database
finds among the documents.
-/

namespace EventCatalog

/-- A store of events and sessions, and what it finds in texts and on the globe. -/
structure Catalog where
  events : List Event
  sessions : List Session
  matchesPattern : (pattern options text : String) → Bool
  liesWithin : Area → Bson → Bool
  /-- No two events have the same identifier. -/
  distinct : (events.map (·.id)).Nodup
  /-- Capacities are numbers of 32 bits. -/
  capacities : ∀ s ∈ sessions, ∀ n ∈ s.capacity, n ≤ Text.max32

/-- The stored value of a sort field. -/
def Event.sortValue (e : Event) : SortField → Bson
  | .createdAt => .ofInstant e.createdAt
  | .updatedAt => .ofInstant e.updatedAt
  | .title => .string e.title

/-- The place of an event in the order of a sort field: its key, then its identifier. -/
def Event.rank (field : SortField) (e : Event) : List Int ×ₗ Uuid :=
  toLex ((e.sortValue field).key, e.id)

/-- The place of a session among those of its event: its start, then its identifier. -/
def Session.rank (s : Session) : Int ×ₗ Uuid := toLex (s.startTime.toMillis, s.id)

/-- Whether a session starts within the bounds of a window, which has to have one. -/
def SessionWindow.covers (w : SessionWindow) (s : Session) : Bool :=
  (w.earliest.isSome || w.latest.isSome) &&
    w.earliest.all (fun t ↦ t.toMillis ≤ s.startTime.toMillis) &&
    w.latest.all fun t ↦ s.startTime.toMillis ≤ t.toMillis

namespace Catalog

variable (c : Catalog) (f : EventFilter) (audience : Audience) (settings : PageSettings)

/-- The collections of a catalog. -/
def toDatabase : Mongo.Database where
  documents name :=
    if name = eventsCollection then c.events.map Event.toDocument
    else if name = sessionsCollection then c.sessions.map Session.toDocument
    else []
  matchesPattern := c.matchesPattern
  liesWithin := c.liesWithin

/-- The sessions of an event by their start: those in a window, if there is one. -/
def sessionsOf (window : Option SessionWindow) (e : Event) : List Session :=
  (c.sessions.filter fun s ↦ s.eventId = e.id && window.all (·.covers s)).insertionSort
    fun a b ↦ a.rank ≤ b.rank

/-- Whether a text is found in another one, in either case. -/
def finds (text s : String) : Bool := c.matchesPattern (Text.escapePattern text) "i" s

/-- Whether an event satisfies all criteria of a filter. -/
def selects (e : Event) : Bool :=
  f.tenantId.all (e.tenantId = ·) && (f.wantedStatus audience).all (e.status = ·) &&
    (f.wantedVisibility audience).all (e.visibility = ·) && f.eventId.all (e.id = ·) &&
    f.search.all (fun text ↦ c.finds text e.title || c.finds text e.detail) &&
    (f.wantedArea settings).all (c.liesWithin · e.location.toBson) &&
    f.sessionWindow.all fun w ↦ !(c.sessionsOf (some w) e).isEmpty

/-- The matching events in the asked order. -/
def listing : List Event :=
  (c.events.filter (c.selects f audience settings)).insertionSort
    fun a b ↦ f.sortOrder.le (a.rank f.sortBy) (b.rank f.sortBy)

/-- An event as a listing delivers it: read back from the store, with its sessions. -/
def deliver (e : Event) : Event := e.stored (c.sessionsOf f.sessionWindow e)

@[simp]
theorem id_deliver (e : Event) : (c.deliver f e).id = e.id := e.id_stored _

end Catalog

namespace Document

variable {d : Document} {name : String} {v : Bson}

theorem offered_of_get? (h : d.get? name = some v) (hv : v.isArray = false) :
    d.offered name = [v] := by
  cases v with
  | array items => cases hv
  | _ => simp [offered, h, Bson.offered]

theorem has_of_get? (h : d.get? name = some v) (hv : v.isArray = false) (w : Bson) :
    d.has name w = decide (v.key = w.key) := by
  simp [has, offered_of_get? h hv]

theorem hasSuch_of_get? (h : d.get? name = some v) (hv : v.isArray = false) (w : Bson)
    (asked : List Int → List Int → Bool) :
    d.hasSuch name w asked = (v.kind = w.kind && asked v.key w.key) := by
  simp [hasSuch, offered_of_get? h hv]

theorem sortKey_of_get? (h : d.get? name = some v) (hv : v.isArray = false) (order : SortOrder) :
    d.sortKey order name = v.key := by
  cases v with
  | array items => cases hv
  | _ => simp [sortKey, h]

end Document

/-- A first key and an identifier order rows as the pair of the two. -/
theorem SortOrder.le_pair_ofUuid [LinearOrder α] {key : α → List Int} (hkey : StrictMono key)
    (order : SortOrder) (a b : α) (i j : Uuid) :
    order.le [key a, (Bson.ofUuid i).key] [key b, (Bson.ofUuid j).key] ↔
      order.le (toLex (a, i)) (toLex (b, j)) := by
  have hpair : ∀ (a b : α) (i j : Uuid), [key a, (Bson.ofUuid i).key] ≤
      [key b, (Bson.ofUuid j).key] ↔ toLex (a, i) ≤ toLex (b, j) := by
    intro a b i j
    rw [← not_lt, ← not_lt, List.cons_lt_cons_iff, List.cons_lt_cons_iff, Prod.Lex.toLex_lt_toLex,
      hkey.lt_iff_lt, hkey.injective.eq_iff, Bson.key_ofUuid_lt]
    simp
  cases order with
  | ascending => exact hpair a b i j
  | descending => exact hpair b a j i

namespace Session

/-- Session documents are sorted as the sessions. -/
theorem le_rank_toDocument (a b : Session) (order : SortOrder) :
    order.le (a.toDocument.rank order ["start_time", "_id"])
      (b.toDocument.rank order ["start_time", "_id"]) ↔ order.le a.rank b.rank := by
  have hrank : ∀ s : Session, s.toDocument.rank order ["start_time", "_id"] =
      [(Bson.date s.startTime.toMillis).key, (Bson.ofUuid s.id).key] := by
    intro s
    have hstart : s.toDocument.get? "start_time" = some (.ofInstant s.startTime) := rfl
    have hid : s.toDocument.get? "_id" = some (.ofUuid s.id) := rfl
    simp only [Document.rank, List.map_cons, List.map_nil,
      Document.sortKey_of_get? hstart rfl order, Document.sortKey_of_get? hid rfl order,
      Bson.ofInstant]
  rw [hrank, hrank]
  exact SortOrder.le_pair_ofUuid (fun _ _ ↦ Bson.key_date_lt_of_lt) order _ _ _ _

end Session

/-- A window with a bound includes a session by the milliseconds of its start. -/
theorem SessionWindow.includes_of_get? (w : SessionWindow) {session : Document} {ms : Int}
    (hstart : session.get? "start_time" = some (.date ms)) :
    w.includes session =
      ((w.earliest.isSome || w.latest.isSome) && w.earliest.all (fun t ↦ t.toMillis ≤ ms) &&
        w.latest.all fun t ↦ ms ≤ t.toMillis) := by
  have hempty : (Bson.date ms).key ≠ (Bson.document []).key := by
    simp [Bson.key]
  obtain ⟨earliest, latest⟩ := w
  simp only [includes, Document.has_of_get? hstart rfl, Document.hasSuch_of_get? hstart rfl,
    Bson.ofInstant, Bson.kind, Bson.key_date_le]
  cases earliest <;> cases latest <;> simp [hempty]

theorem SessionWindow.includes_toDocument (w : SessionWindow) (s : Session) :
    w.includes s.toDocument = w.covers s := w.includes_of_get? rfl

namespace Event

/-- Event documents are sorted as the events. -/
theorem le_rank_toDocument (a b : Event) (field : SortField) (order : SortOrder) :
    order.le (a.toDocument.rank order [field.name, "_id"])
        (b.toDocument.rank order [field.name, "_id"]) ↔
      order.le (a.rank field) (b.rank field) := by
  have hrank : ∀ e : Event, e.toDocument.rank order [field.name, "_id"] =
      [(e.sortValue field).key, (Bson.ofUuid e.id).key] := by
    intro e
    have hid : e.toDocument.get? "_id" = some (.ofUuid e.id) := rfl
    have hfield : e.toDocument.get? field.name = some (e.sortValue field) := by
      cases field <;> rfl
    have hscalar : (e.sortValue field).isArray = false := by
      cases field <;> rfl
    simp only [Document.rank, List.map_cons, List.map_nil,
      Document.sortKey_of_get? hfield hscalar order, Document.sortKey_of_get? hid rfl order]
  rw [hrank, hrank]
  exact SortOrder.le_pair_ofUuid strictMono_id order _ _ _ _

end Event

namespace SortOrder

/-- Whether an event stands behind an identifier in a direction. -/
theorem isBeyond_toDocument (order : SortOrder) (boundary : Uuid) (e : Event) :
    order.isBeyond boundary e.toDocument = decide (order.lt boundary e.id) := by
  have hid : e.toDocument.get? "_id" = some (.ofUuid e.id) := rfl
  have hlt : order.lt (Bson.ofUuid boundary).key (Bson.ofUuid e.id).key ↔
      order.lt boundary e.id := by
    cases order with
    | ascending => exact Bson.key_ofUuid_lt boundary e.id
    | descending => exact Bson.key_ofUuid_lt e.id boundary
  simp [isBeyond, Document.hasSuch_of_get? hid rfl, hlt]

end SortOrder

namespace Catalog

variable (c : Catalog) (f : EventFilter) (audience : Audience) (settings : PageSettings)

theorem events_toDatabase :
    c.toDatabase.documents eventsCollection = c.events.map Event.toDocument := rfl

theorem sessions_toDatabase :
    c.toDatabase.documents sessionsCollection = c.sessions.map Session.toDocument := rfl

/-- The joined sessions are the sessions of the event. -/
theorem sessionsOf_toDatabase (window : Option SessionWindow) (e : Event) :
    c.toDatabase.sessionsOf window e.toDocument =
      (c.sessionsOf window e).map Session.toDocument := by
  have hid : e.toDocument.get? "_id" = some (.ofUuid e.id) := rfl
  have heventId : ∀ s : Session, s.toDocument.get? "event_id" = some (.ofUuid s.eventId) :=
    fun s ↦ rfl
  have hincludes : ∀ s : Session, window.all (·.includes s.toDocument) =
      window.all (·.covers s) := by
    intro s
    cases window with
    | none => rfl
    | some w => exact w.includes_toDocument s
  have hfilter : (c.sessions.map Session.toDocument).filter (fun s ↦
      ((s.get? "event_id").map Bson.key = (e.toDocument.get? "_id").map Bson.key) &&
        window.all (·.includes s)) =
      (c.sessions.filter fun s ↦ s.eventId = e.id && window.all (·.covers s)).map
        Session.toDocument := by
    simp [List.filter_map, Function.comp_def, hid, heventId, hincludes]
  rw [Mongo.Database.sessionsOf, sessions_toDatabase, hfilter]
  exact (List.map_insertionSort _ _ _ _
    fun a _ b _ ↦ (a.le_rank_toDocument b .ascending).symm).symm

theorem findsIn_toDocument {e : Event} {name text value : String}
    (h : e.toDocument.get? name = some (.string value)) :
    c.toDatabase.findsIn name text e.toDocument = c.finds text value := by
  simp [Mongo.Database.findsIn, Document.offered_of_get? h rfl, finds, toDatabase]

/-- The criteria of a filter hold of the document of an event when they hold of the event. -/
theorem admits_toDocument (e : Event) :
    (f.admits audience settings c.toDatabase e.toDocument &&
      f.admitsSessions c.toDatabase e.toDocument) = c.selects f audience settings e := by
  have hid : e.toDocument.get? "_id" = some (.ofUuid e.id) := rfl
  have htenant : e.toDocument.get? "tenant_id" = some (.string e.tenantId) := rfl
  have hstatus : e.toDocument.get? "status" = some (.string e.status.name) := rfl
  have hvisibility : e.toDocument.get? "visibility" = some (.string e.visibility.name) := rfl
  have htitle : e.toDocument.get? "title" = some (.string e.title) := rfl
  have hdetail : e.toDocument.get? "detail" = some (.string e.detail) := rfl
  have hlocation : e.toDocument.get? "location" = some e.location.toBson := rfl
  have hcoordinates : e.toDocument.hasCoordinates = true := rfl
  have hstatusName : ∀ s t : EventStatus, s.name = t.name ↔ s = t := by
    intro s t
    cases s <;> cases t <;> decide
  have hvisibilityName : ∀ v w : EventVisibility, v.name = w.name ↔ v = w := by
    intro v w
    cases v <;> cases w <;> decide
  simp only [EventFilter.admits, EventFilter.admitsSessions, selects, Document.has_of_get? hid rfl,
    Document.has_of_get? htenant rfl, Document.has_of_get? hstatus rfl,
    Document.has_of_get? hvisibility rfl, c.findsIn_toDocument htitle,
    c.findsIn_toDocument hdetail, hlocation, hcoordinates, Bson.key_string_inj, Bson.key_ofUuid_inj,
    hstatusName, hvisibilityName, sessionsOf_toDatabase, List.isEmpty_map, Option.any_some,
    Bool.and_true]
  rfl

/-- Different events have different places. -/
theorem eq_of_id_eq {a b : Event} (ha : a ∈ c.events) (hb : b ∈ c.events) (h : a.id = b.id) :
    a = b :=
  List.inj_on_of_nodup_map c.distinct ha hb h

/-- The events of a catalog are ordered by their places without ties. -/
theorem antisymm_rank {a b : Event} (ha : a ∈ c.events) (hb : b ∈ c.events)
    (hab : f.sortOrder.le (a.rank f.sortBy) (b.rank f.sortBy))
    (hba : f.sortOrder.le (b.rank f.sortBy) (a.rank f.sortBy)) : a = b := by
  have hrank := f.sortOrder.antisymm hab hba
  exact c.eq_of_id_eq ha hb (congrArg (fun r ↦ (ofLex r).2) hrank)

/-- Sorting what is left of some events is leaving the same of the sorted events. -/
theorem insertionSort_filter {events : List Event} (h : ∀ e ∈ events, e ∈ c.events)
    (p : Event → Bool) :
    (events.filter p).insertionSort
        (fun a b ↦ f.sortOrder.le (a.rank f.sortBy) (b.rank f.sortBy)) =
      (events.insertionSort
        fun a b ↦ f.sortOrder.le (a.rank f.sortBy) (b.rank f.sortBy)).filter p := by
  have hsorted := List.pairwise_insertionSort
    fun a b : Event ↦ f.sortOrder.le (a.rank f.sortBy) (b.rank f.sortBy)
  refine List.Perm.eq_of_pairwise (fun a b ha hb ↦ c.antisymm_rank f ?_ ?_)
    (hsorted (events.filter p)) ((hsorted events).filter p) ?_
  · exact h a (List.mem_filter.1 ((List.mem_insertionSort _).1 ha)).1
  · exact h b ((List.mem_insertionSort _).1 (List.mem_filter.1 hb).1)
  · exact (List.perm_insertionSort _ _).trans ((List.perm_insertionSort _ _).filter p).symm

/-- The matching documents are those of the listing. -/
theorem matching_toDatabase (boundary : Option Uuid) :
    f.matching audience settings c.toDatabase boundary =
      ((c.listing f audience settings).filter fun e ↦
        boundary.all fun id ↦ f.sortOrder.lt id e.id).map Event.toDocument := by
  have hfilter : (c.events.map Event.toDocument).filter (fun d ↦
      f.admits audience settings c.toDatabase d && boundary.all (f.sortOrder.isBeyond · d) &&
        f.admitsSessions c.toDatabase d) =
      ((c.events.filter (c.selects f audience settings)).filter fun e ↦
        boundary.all fun id ↦ f.sortOrder.lt id e.id).map Event.toDocument := by
    rw [List.filter_map, List.filter_filter]
    refine congrArg _ (List.filter_congr fun e _ ↦ ?_)
    simp only [Function.comp, ← c.admits_toDocument f audience settings e,
      SortOrder.isBeyond_toDocument]
    ac_rfl
  rw [EventFilter.matching, events_toDatabase, hfilter, listing, ← c.insertionSort_filter f
    (fun e he ↦ (List.mem_filter.1 he).1)]
  exact (List.map_insertionSort _ _ _ _
    fun a _ b _ ↦ (a.le_rank_toDocument b f.sortBy f.sortOrder).symm).symm

/-- The row of an event with its joined sessions. -/
theorem withSessions_toDatabase (e : Event) :
    c.toDatabase.withSessions f.sessionWindow e.toDocument =
      e.row (c.sessionsOf f.sessionWindow e) := by
  rw [Mongo.Database.withSessions, sessionsOf_toDatabase, Event.row]

end Catalog

end EventCatalog
