import EventCatalog.Event.Stored
import EventCatalog.Proofs.Bson.Document
import EventCatalog.Proofs.Uuid

/-!
# Stored events read back

The row of a stored event, with the documents of some sessions joined to it, reads back as the event
with these sessions.  Only times change: they come back as whole milliseconds.
-/

namespace EventCatalog

/-- Items that read back one by one read back as a list. -/
theorem mapM_map_eq_some {read : β → Option γ} {write : α → β} {f : α → γ} {as : List α}
    (h : ∀ a ∈ as, read (write a) = some (f a)) : (as.map write).mapM read = some (as.map f) := by
  induction as with
  | nil => rfl
  | cons a as ih =>
    rw [List.map_cons, List.mapM_cons, h a List.mem_cons_self,
      ih fun b hb ↦ h b (List.mem_cons_of_mem a hb)]
    rfl

namespace Bson

@[simp]
theorem decodeUuid_ofUuid (id : Uuid) : decodeUuid (.ofUuid id) = some id := by
  simp [decodeUuid, ofUuid, denotation?, Uuid.ofBytes?_toBytes]

@[simp]
theorem decodeString_string (s : String) : decodeString (.string s) = some s := by
  rw [decodeString]

@[simp]
theorem decodeOptionString_ofOptionalString (s : Option String) :
    decodeOption decodeString (.ofOptionalString s) = some s := by
  cases s <;> rfl

end Bson

namespace Instant

/-- An instant as it comes back from a store. -/
def stored (t : Instant) : Instant := ofMillis t.toMillis

@[simp]
theorem decodeInstant_ofInstant (t : Instant) :
    Bson.decodeInstant (.ofInstant t) = some t.stored := by
  rw [Bson.decodeInstant, Bson.ofInstant, Bson.denotation?, stored]

end Instant

theorem EventStatus.decodeVariant_name (s : EventStatus) :
    Bson.decodeVariant EventStatus.byName (.string s.name) = some s := by
  cases s <;> decide

theorem EventVisibility.decodeVariant_name (v : EventVisibility) :
    Bson.decodeVariant EventVisibility.byName (.string v.name) = some v := by
  cases v <;> decide

theorem Point.decodeRecord_toBson (p : Point) :
    Bson.decodeRecord Point.fields default p.toBson = some p := by
  simp [Bson.decodeRecord, Point.fields, Point.toBson, Bson.decodeMembers, Bson.Field.of,
    Bson.decodeVariant, Bson.decodePair, Bson.decodeFloat]

theorem FaqEntry.decodeRecord_toBson (e : FaqEntry) :
    Bson.decodeRecord FaqEntry.fields default e.toBson = some e := by
  simp [Bson.decodeRecord, FaqEntry.fields, FaqEntry.toBson, Bson.decodeMembers, Bson.Field.of]

namespace Session

/-- A session as it comes back from a store. -/
def stored (s : Session) : Session :=
  { s with
    startTime := s.startTime.stored
    endTime := s.endTime.stored
    createdAt := s.createdAt.stored
    updatedAt := s.updatedAt.stored }

/-- A capacity is read within the range of 32 bits. -/
theorem decodeCapacity {n : Nat} (h : n ≤ Text.max32) :
    Bson.decodeOption (Bson.decodeUnsigned Text.max32) (.int64 n) = some (some n) := by
  have hrange : (0 : Int) ≤ n ∧ (n : Int) ≤ Text.max32 := ⟨Int.natCast_nonneg n, by omega⟩
  have hread : Bson.decodeUnsigned Text.max32 (.int64 n) = some n := by
    rw [Bson.decodeUnsigned]
    change (if (0 : Int) ≤ n ∧ (n : Int) ≤ Text.max32 then some (n : Int).toNat else none) = some n
    rw [if_pos hrange, Int.toNat_natCast]
  rw [Bson.decodeOption, hread]
  · rfl
  · exact nofun

theorem ofBson?_toDocument (s : Session) (h : ∀ n ∈ s.capacity, n ≤ Text.max32) :
    ofBson? (.document s.toDocument) = some s.stored := by
  have hnull : Bson.decodeOption (Bson.decodeUnsigned Text.max32) .null = some none := rfl
  obtain ⟨id, eventId, name, capacity, startTime, endTime, createdAt, updatedAt⟩ := s
  cases capacity with
  | none =>
    simp [ofBson?, Bson.decodeRecord, fields, toDocument, Bson.decodeMembers, Bson.Field.of, hnull,
      stored]
  | some n =>
    simp [ofBson?, Bson.decodeRecord, fields, toDocument, Bson.decodeMembers, Bson.Field.of,
      decodeCapacity (h n rfl), stored]

end Session

namespace Event

/-- The row of a stored event with the documents of some sessions. -/
def row (e : Event) (sessions : List Session) : Document :=
  e.toDocument.set "sessions" (.array ((sessions.map Session.toDocument).map .document))

/-- An event as it comes back from a store, with some sessions. -/
def stored (e : Event) (sessions : List Session) : Event :=
  { e with
    createdAt := e.createdAt.stored
    updatedAt := e.updatedAt.stored
    sessions := sessions.map Session.stored }

-- Unfolding both sides of `(e.stored sessions).id = e.id` makes the kernel compare the times as well,
-- which it does by computing with seconds.  A projection lemma keeps it from doing so.
theorem id_mk (id : Uuid) (tenantId : String) (status : EventStatus) (visibility : EventVisibility)
    (title : String) (location : Point) (detail : String) (faq : List FaqEntry)
    (createdAt updatedAt : Instant) (createdBy updatedBy : Option String)
    (sessions : List Session) :
    (Event.mk id tenantId status visibility title location detail faq createdAt updatedAt createdBy
      updatedBy sessions).id = id := rfl

@[simp]
theorem id_stored (e : Event) (sessions : List Session) : (e.stored sessions).id = e.id := by
  rw [stored, id_mk]

theorem ofDocument?_row (e : Event) {sessions : List Session}
    (h : ∀ s ∈ sessions, ∀ n ∈ s.capacity, n ≤ Text.max32) :
    ofDocument? (e.row sessions) = some (e.stored sessions) := by
  have hsessions : Bson.decodeList Session.ofBson?
      (.array (sessions.map fun s ↦ .document s.toDocument)) =
        some (sessions.map Session.stored) :=
    mapM_map_eq_some fun s hs ↦ s.ofBson?_toDocument (h s hs)
  have hfaq : Bson.decodeList (Bson.decodeRecord FaqEntry.fields default)
      (.array (e.faq.map FaqEntry.toBson)) = some e.faq := by
    rw [Bson.decodeList, mapM_map_eq_some fun entry _ ↦ entry.decodeRecord_toBson, List.map_id']
  rw [ofDocument?, Bson.decodeRecord]
  simp [row, toDocument, Document.set, fields, Bson.decodeMembers, Bson.Field.of,
    Function.comp_def, hsessions, hfaq, EventStatus.decodeVariant_name,
    EventVisibility.decodeVariant_name, Point.decodeRecord_toBson, stored]

end Event

end EventCatalog
