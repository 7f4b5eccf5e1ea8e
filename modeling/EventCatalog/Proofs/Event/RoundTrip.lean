import EventCatalog.Proofs.Event.Stored
import EventCatalog.Proofs.Instant.Millis

/-!
# The way into the store and back

An event goes into the store without its sessions, and comes back with the sessions that are joined
to it.  On the way its times lose what is smaller than a millisecond.  What came back is stored as
the same documents again, so nothing is lost twice.
-/

namespace EventCatalog

namespace Instant

/-- An instant comes back from the store as the one of its milliseconds. -/
theorem isOfMillis_stored {t : Instant} (h : t.IsStorable) : t.stored.IsOfMillis t.toMillis :=
  isOfMillis_ofMillis h.1 h.2

/-- What came back from the store is stored as the same date. -/
theorem ofInstant_stored {t : Instant} (h : t.IsStorable) :
    Bson.ofInstant t.stored = Bson.ofInstant t := by
  rw [Bson.ofInstant, Bson.ofInstant, (isOfMillis_stored h).toMillis]

end Instant

namespace Session

/-- The times of a session. -/
def times (s : Session) : List Instant := [s.startTime, s.endTime, s.createdAt, s.updatedAt]

/-- A session that came back from the store is stored as the same document. -/
theorem toDocument_stored {s : Session} (h : ∀ t ∈ s.times, t.IsStorable) :
    s.stored.toDocument = s.toDocument := by
  -- With the fields as variables nothing is left to compare but the dates.
  obtain ⟨id, eventId, name, capacity, startTime, endTime, createdAt, updatedAt⟩ := s
  simp only [times, List.forall_mem_cons] at h
  obtain ⟨hstart, hend, hcreated, hupdated, -⟩ := h
  simp only [toDocument, stored, Instant.ofInstant_stored hstart, Instant.ofInstant_stored hend,
    Instant.ofInstant_stored hcreated, Instant.ofInstant_stored hupdated]

end Session

namespace Event

/-- The times of an event itself. -/
def times (e : Event) : List Instant := [e.createdAt, e.updatedAt]

/-- Sessions are no member of an event's own document. -/
theorem sessions_notMem_toDocument (e : Event) : "sessions" ∉ e.toDocument.map Prod.fst := by
  simp [toDocument]

/-- Joined sessions stand behind the event's own members. -/
theorem row_eq_append (e : Event) (sessions : List Session) :
    e.row sessions =
      e.toDocument ++ [("sessions", .array (sessions.map fun s ↦ .document s.toDocument))] := by
  have hnone : ¬e.toDocument.any (·.1 = "sessions") := by
    simp [toDocument]
  rw [row, Document.set, if_neg hnone, List.map_map]
  rfl

/-- An event that came back from the store is stored as the same document. -/
theorem toDocument_stored {e : Event} (h : ∀ t ∈ e.times, t.IsStorable) (sessions : List Session) :
    (e.stored sessions).toDocument = e.toDocument := by
  obtain ⟨id, tenantId, status, visibility, title, location, detail, faq, createdAt, updatedAt,
    createdBy, updatedBy, joined⟩ := e
  simp only [times, List.forall_mem_cons] at h
  obtain ⟨hcreated, hupdated, -⟩ := h
  simp only [toDocument, stored, Instant.ofInstant_stored hcreated,
    Instant.ofInstant_stored hupdated]

/-- The way into the store and back.  The document of an event has no sessions; with the documents
of some sessions behind it, it reads back as the event with these sessions in their order, in which
only times have changed, each to the instant of its milliseconds.  The event and the sessions that
came back have the documents of those that were stored. -/
theorem store_roundTrip (e : Event) (sessions : List Session)
    (hcapacity : ∀ s ∈ sessions, ∀ n ∈ s.capacity, n ≤ Text.max32)
    (htimes : ∀ t ∈ e.times ++ sessions.flatMap Session.times, t.IsStorable) :
    "sessions" ∉ e.toDocument.map Prod.fst ∧
    ofDocument? (e.toDocument ++
        [("sessions", .array (sessions.map fun s ↦ .document s.toDocument))]) =
      some { e with
        createdAt := e.createdAt.stored
        updatedAt := e.updatedAt.stored
        sessions := sessions.map fun s ↦
          { s with
            startTime := s.startTime.stored
            endTime := s.endTime.stored
            createdAt := s.createdAt.stored
            updatedAt := s.updatedAt.stored } } ∧
    (∀ t ∈ e.times ++ sessions.flatMap Session.times, t.stored.IsOfMillis t.toMillis) ∧
    (e.stored sessions).toDocument = e.toDocument ∧
    (e.stored sessions).sessions.map Session.toDocument = sessions.map Session.toDocument := by
  have hevent : ∀ t ∈ e.times, t.IsStorable :=
    fun t ht ↦ htimes t (List.mem_append_left _ ht)
  have hsession : ∀ s ∈ sessions, ∀ t ∈ s.times, t.IsStorable :=
    fun s hs t ht ↦ htimes t (List.mem_append_right _ (List.mem_flatMap.2 ⟨s, hs, ht⟩))
  have hread : ofDocument? (e.toDocument ++
      [("sessions", .array (sessions.map fun s ↦ .document s.toDocument))]) =
        some (e.stored sessions) := by
    rw [← row_eq_append]
    exact ofDocument?_row e hcapacity
  have hjoined : (e.stored sessions).sessions.map Session.toDocument =
      sessions.map Session.toDocument := by
    rw [stored, List.map_map]
    apply List.map_congr_left
    intro s hs
    exact Session.toDocument_stored (hsession s hs)
  refine ⟨e.sessions_notMem_toDocument, hread, ?_, toDocument_stored hevent sessions, hjoined⟩
  intro t ht
  exact Instant.isOfMillis_stored (htimes t ht)

/-- An event from the last nanosecond before 1970, changed in the middle of a leap second, at a
place that is no number. -/
def leapEvent : Event where
  id := ⟨1⟩
  tenantId := "t1"
  status := .archived
  visibility := .everyone
  title := ""
  location := ⟨Binary64.nan, Binary64.zero⟩
  detail := "d"
  faq := [⟨"q", "a"⟩]
  createdAt := (Instant.make? (-1) 999999999).getD .epoch
  updatedAt := (Instant.make? 59 1500000001).getD .epoch
  createdBy := none
  updatedBy := some "u1"
  sessions := []

/-- A session in this leap second with the largest number of places. -/
def leapSession : Session where
  id := ⟨2⟩
  eventId := ⟨1⟩
  name := none
  capacity := some 4294967295
  startTime := (Instant.make? 59 1000000001).getD .epoch
  endTime := .ofMillis 60000
  createdAt := .epoch
  updatedAt := .epoch

theorem store_roundTrip_leap :
    ofDocument? (leapEvent.toDocument ++
        [("sessions", .array [.document leapSession.toDocument])]) =
      some (leapEvent.stored [leapSession]) ∧
    leapEvent.createdAt.stored.IsOfMillis (-1) ∧ leapEvent.updatedAt.stored.IsOfMillis 60500 ∧
    (leapEvent.stored [leapSession]).toDocument = leapEvent.toDocument := by
  have hcapacity : ∀ s ∈ [leapSession], ∀ n ∈ s.capacity, n ≤ Text.max32 := by
    decide
  have htimes : ∀ t ∈ leapEvent.times ++ [leapSession].flatMap Session.times, t.IsStorable := by
    decide
  obtain ⟨-, hread, hmillis, hsame, -⟩ :=
    store_roundTrip leapEvent [leapSession] hcapacity htimes
  have hcreated := hmillis leapEvent.createdAt (by decide)
  have hupdated := hmillis leapEvent.updatedAt (by decide)
  exact ⟨hread, hcreated, hupdated, hsame⟩

end Event

end EventCatalog
