import EventCatalog.Event.Draft
import EventCatalog.Proofs.Json.Decoding

/-!
# What the rules of drafts let through

The rules of a request as conditions on its values, and the entity that a request describes, field
by field.  A coordinate that is read from JSON is a number, so a point that breaks no rule lies on
the globe; the comparisons of the rules alone would let through what is no number.
-/

namespace EventCatalog

namespace Validation

theorem check_eq_ok_iff {faults : List Fault} : check faults = .ok () ↔ faults = [] := by
  rw [check]
  cases faults <;> simp

theorem rule_eq_nil_iff {path message : String} {holds : α → Bool} {value : Option α} :
    rule path message holds value = [] ↔ ∀ a ∈ value, holds a = true := by
  cases value with
  | none => simp [rule]
  | some a => simp [rule]

theorem withinBounds_iff {bound : Nat} {x : Binary64} (h : x.isNaN = false) :
    withinBounds bound x = true ↔ x.IsWithin (.ofInt (-(bound : Int))) (.ofNat bound) := by
  have hlow := Binary64.not_lt_iff_rank_le h (Binary64.isNaN_ofInt (-(bound : Int)))
  have hhigh := Binary64.not_lt_iff_rank_le (Binary64.isNaN_ofNat bound) h
  rw [withinBounds, Bool.and_eq_true, hlow, hhigh]
  constructor
  · rintro ⟨hle, hge⟩
    exact ⟨h, hge, hle⟩
  · intro hwithin
    exact ⟨hwithin.le_high, hwithin.low_le⟩

end Validation

namespace Point

/-- Whether both coordinates of a point are numbers. -/
def HasNumbers (p : Point) : Prop := p.lng.isNaN = false ∧ p.lat.isNaN = false

/-- Whether a point is the place of something: its longitude and its latitude are numbers within
their ranges. -/
structure IsOnGlobe (p : Point) : Prop where
  lng : p.lng.IsWithin (.ofInt (-180)) (.ofNat 180)
  lat : p.lat.IsWithin (.ofInt (-90)) (.ofNat 90)

theorem faults_eq_nil_iff {p : Point} {path : String} (h : p.HasNumbers) :
    p.faults path = [] ↔ p.IsOnGlobe := by
  rw [faults, Validation.longitude, Validation.latitude, List.append_eq_nil_iff,
    Validation.rule_eq_nil_iff, Validation.rule_eq_nil_iff]
  simp only [Option.mem_some_iff, forall_eq', Validation.withinBounds_iff h.1,
    Validation.withinBounds_iff h.2]
  constructor
  · rintro ⟨hlng, hlat⟩
    exact ⟨hlng, hlat⟩
  · intro hglobe
    exact ⟨hglobe.lng, hglobe.lat⟩

end Point

namespace EventDraft

/-- The rules of a request for an event. -/
structure IsValid (d : EventDraft) : Prop where
  title_nonempty : 1 ≤ d.title.length
  title_length : d.title.length ≤ 255
  location : ∀ p ∈ d.location, p.IsOnGlobe

/-- A request that is read is accepted exactly if it keeps the rules. -/
theorem check_eq_ok_iff {d : EventDraft} (h : ∀ p ∈ d.location, p.HasNumbers) :
    Validation.check d.faults = .ok () ↔ d.IsValid := by
  have htitle : Validation.rule "title" "Title must be 1-255 characters"
      (fun s : String ↦ 1 ≤ s.length && s.length ≤ 255) (some d.title) = [] ↔
        1 ≤ d.title.length ∧ d.title.length ≤ 255 := by
    rw [Validation.rule_eq_nil_iff]
    simp
  have hfaults : d.faults = [] ↔
      (1 ≤ d.title.length ∧ d.title.length ≤ 255) ∧ ∀ p ∈ d.location, p.IsOnGlobe := by
    rw [faults, List.append_eq_nil_iff, htitle]
    cases hpoint : d.location with
    | none => simp
    | some p => simp [Point.faults_eq_nil_iff (h p hpoint)]
  rw [Validation.check_eq_ok_iff, hfaults]
  constructor
  · rintro ⟨⟨hnonempty, hlength⟩, hglobe⟩
    exact ⟨hnonempty, hlength, hglobe⟩
  · intro hvalid
    exact ⟨⟨hvalid.title_nonempty, hvalid.title_length⟩, hvalid.location⟩

/-- Whether an event is the one that a request asks for: where the request says nothing, a private
draft without a text, at the point that stands for no location. -/
structure Describes (d : EventDraft) (tenantId : String) (actor : Option String) (now : Instant)
    (id : Uuid) (e : Event) : Prop where
  id : e.id = id
  tenantId : e.tenantId = tenantId
  status : e.status = d.status.getD .draft
  visibility : e.visibility = d.visibility.getD .tenantOnly
  title : e.title = d.title
  location : e.location = d.location.getD ⟨Binary64.zero, Binary64.zero⟩
  detail : e.detail = d.detail.getD ""
  faq : e.faq = d.faq
  createdAt : e.createdAt = now
  updatedAt : e.updatedAt = now
  createdBy : e.createdBy = actor
  updatedBy : e.updatedBy = actor
  sessions : e.sessions = []

variable {tenantId : String} {actor : Option String} {now : Instant} {id : Uuid}

end EventDraft

namespace SessionDraft

/-- The rules of a request for a session. -/
structure IsValid (d : SessionDraft) : Prop where
  name_length : ∀ name ∈ d.name, name.length ≤ 255
  capacity_pos : ∀ n ∈ d.capacity, 1 ≤ n
  startTime_lt : d.startTime < d.endTime

theorem check_eq_ok_iff {d : SessionDraft} :
    Validation.check d.faults = .ok () ↔
      (∀ name ∈ d.name, name.length ≤ 255) ∧ ∀ n ∈ d.capacity, 1 ≤ n := by
  rw [Validation.check_eq_ok_iff, faults, List.append_eq_nil_iff, Validation.rule_eq_nil_iff,
    Validation.rule_eq_nil_iff]
  simp only [decide_eq_true_eq]

/-- Whether a session is the one that a request asks for. -/
structure Describes (d : SessionDraft) (eventId : Uuid) (now : Instant) (id : Uuid)
    (s : Session) : Prop where
  id : s.id = id
  eventId : s.eventId = eventId
  name : s.name = d.name
  capacity : s.capacity = d.capacity
  startTime : s.startTime = d.startTime
  endTime : s.endTime = d.endTime
  createdAt : s.createdAt = now
  updatedAt : s.updatedAt = now

variable {eventId : Uuid} {now : Instant} {id : Uuid}

end SessionDraft

end EventCatalog
