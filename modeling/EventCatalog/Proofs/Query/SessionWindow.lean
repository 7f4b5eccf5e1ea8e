import EventCatalog.Proofs.Catalog
import EventCatalog.Proofs.Instant.Millis

/-!
# Session windows over stored starts

The bounds of a window are instants, and a join compares them with stored starts, which are whole
milliseconds.  Both bounds are rounded down for that.  So a start is accepted when it lies within
the bounds, but also when it is the very millisecond in which the lower bound lies and that bound is
later in it.  A bound in a leap second takes the milliseconds that the leap second reaches into for
its own.
-/

namespace EventCatalog

/-- The condition of a rendered join on the start of the sessions. -/
def Stage.startCondition? : Document → Option Bson
  | [("$lookup", .document lookup)] =>
    match Document.get? lookup "pipeline" with
    | some (.array (.document [("$match", .document conditions)] :: _)) =>
      Document.get? conditions "start_time"
    | _ => none
  | _ => none

namespace SessionWindow

open Mongo

variable {earliest latest : Option Instant} {w : SessionWindow} {session : Document} {ms : Int}

/-- Whether a start lies within the bounds of a window, ends included, as points of time. -/
structure Spans (w : SessionWindow) (ms : Int) : Prop where
  earliest : ∀ e ∈ w.earliest, e.AtOrBefore ms
  latest : ∀ l ∈ w.latest, l.AtOrAfter ms

theorem spans_iff : w.Spans ms ↔
    (∀ e ∈ w.earliest, e.AtOrBefore ms) ∧ ∀ l ∈ w.latest, l.AtOrAfter ms :=
  ⟨fun h ↦ ⟨h.earliest, h.latest⟩, fun h ↦ ⟨h.1, h.2⟩⟩

/-- A window is made of two bounds of which at least one is set. -/
theorem of_ofBounds (h : ofBounds earliest latest = .ok (some w)) :
    w = ⟨earliest, latest⟩ ∧ (earliest.isSome || latest.isSome) = true := by
  unfold ofBounds at h
  split at h
  · cases h
  · split at h
    · cases h
    · cases h
      exact ⟨rfl, rfl⟩
  · cases h
    refine ⟨rfl, ?_⟩
    cases earliest <;> cases latest <;> simp_all

theorem startCondition?_joinSessions (w : SessionWindow) :
    Stage.startCondition? (Stage.joinSessions (some w)).toDocument = some (.document w.toDocument) :=
  rfl

/-- The condition on the start of a session accepts it by its milliseconds and those of the bounds.
-/
theorem accepts_start (db : Database) (bindings : Bindings)
    (h : ofBounds earliest latest = .ok (some w))
    (hstart : session.get? "start_time" = some (.date ms)) :
    db.acceptsMember bindings session "start_time" (.document w.toDocument) =
      some (earliest.all (fun e ↦ e.toMillis ≤ ms) && latest.all fun l ↦ ms ≤ l.toMillis) := by
  obtain ⟨rfl, hbound⟩ := of_ofBounds h
  rw [accepts_toDocument, includes_of_get? _ hstart, hbound, Bool.true_and]

/-- The starts that are accepted are those after the lower bound or in its millisecond, and not
after the upper bound; milliseconds that a leap second reaches into count to the leap second.  From
a lower bound of whole milliseconds on and up to an upper bound outside a leap second, exactly the
starts within the window are accepted. -/
theorem startCondition_accepts_iff (db : Database) (bindings : Bindings)
    (h : ofBounds earliest latest = .ok (some w))
    (hstart : session.get? "start_time" = some (.date ms)) :
    ∃ condition accepted,
      Stage.startCondition? (Stage.joinSessions (some w)).toDocument = some condition ∧
        db.acceptsMember bindings session "start_time" condition = some accepted ∧
        (accepted = true ↔
          (∀ e ∈ earliest, ms = e.toMillis ∨ e.AtOrBefore ms ∧ ¬e.FoldsInto ms) ∧
            ∀ l ∈ latest, l.AtOrAfter ms ∨ l.FoldsInto ms) ∧
        ((∀ e ∈ earliest, e.IsOfMillis e.toMillis) → (∀ l ∈ latest, ¬l.InLeapSecond) →
          (accepted = true ↔ w.Spans ms)) := by
  have haccepts := accepts_start db bindings h hstart
  refine ⟨_, _, startCondition?_joinSessions w, haccepts, ?_, fun hwhole houtside ↦ ?_⟩
  · simp only [Bool.and_eq_true, Option.all_eq_true, decide_eq_true_eq, Option.mem_def,
      Instant.toMillis_le_iff, Instant.le_toMillis_iff]
  · have hearliest : (∀ e ∈ earliest, e.toMillis ≤ ms) ↔ ∀ e ∈ earliest, e.AtOrBefore ms :=
      forall₂_congr fun e he ↦ (hwhole e he).toMillis_le_iff ms
    have hlatest : (∀ l ∈ latest, ms ≤ l.toMillis) ↔ ∀ l ∈ latest, l.AtOrAfter ms :=
      forall₂_congr fun l hl ↦ Instant.le_toMillis_iff_of_not_inLeapSecond (houtside l hl) ms
    rw [(of_ofBounds h).1, spans_iff, ← hearliest, ← hlatest]
    simp only [Bool.and_eq_true, Option.all_eq_true, decide_eq_true_eq, Option.mem_def]

/-- A database without documents. -/
def noDocuments : Database := ⟨fun _ ↦ [], fun _ _ _ ↦ false, fun _ _ ↦ false⟩

/-- An hour after the epoch. -/
def anHourOn : Instant := (Instant.make? 3600 0).getD .epoch

/-- A session that starts with the last millisecond of a window is accepted. -/
theorem startCondition_accepts_anHourOn :
    (ofBounds (some Instant.epoch) (some anHourOn) =
        .ok (some ⟨some Instant.epoch, some anHourOn⟩) ∧
      Document.get? [("start_time", .date 3600000)] "start_time" = some (.date 3600000)) ∧
    ∃ condition,
      Stage.startCondition?
          (Stage.joinSessions (some ⟨some Instant.epoch, some anHourOn⟩)).toDocument =
        some condition ∧
      noDocuments.acceptsMember [] [("start_time", .date 3600000)] "start_time" condition =
        some true := by
  have hwindow : ofBounds (some Instant.epoch) (some anHourOn) =
      .ok (some ⟨some Instant.epoch, some anHourOn⟩) := by decide
  have hstart : Document.get? [("start_time", .date 3600000)] "start_time" =
      some (.date 3600000) := rfl
  obtain ⟨condition, accepted, hcondition, haccepted, -, hspans⟩ :=
    startCondition_accepts_iff noDocuments [] hwindow hstart
  have hwhole : Instant.epoch.IsOfMillis Instant.epoch.toMillis := by
    constructor <;> decide
  have hwithin : Spans ⟨some Instant.epoch, some anHourOn⟩ 3600000 := by
    constructor
    · rintro e ⟨⟩
      decide
    · rintro l ⟨⟩
      decide
  have htrue : accepted = true := by
    refine (hspans ?_ ?_).2 hwithin
    · rintro e ⟨⟩
      exact hwhole
    · rintro l ⟨⟩
      decide
  rw [htrue] at haccepted
  exact ⟨⟨hwindow, hstart⟩, condition, hcondition, haccepted⟩

/-- A tenth of a millisecond after the epoch. -/
def tenthOfMillisecond : Instant := (Instant.make? 0 100000).getD .epoch

/-- A session that starts at the epoch is accepted by a window that begins a tenth of a millisecond
later. -/
theorem startCondition_accepts_tooEarly :
    ofBounds (some tenthOfMillisecond) none = .ok (some ⟨some tenthOfMillisecond, none⟩) ∧
      Stage.startCondition? (Stage.joinSessions (some ⟨some tenthOfMillisecond, none⟩)).toDocument =
        some (.document [("$gte", .date 0)]) ∧
      noDocuments.acceptsMember [] [("start_time", .date 0)] "start_time"
        (.document [("$gte", .date 0)]) = some true ∧
      ¬Spans ⟨some tenthOfMillisecond, none⟩ 0 := by
  have hwindow : ofBounds (some tenthOfMillisecond) none =
      .ok (some ⟨some tenthOfMillisecond, none⟩) := rfl
  have hstart : Document.get? [("start_time", .date 0)] "start_time" = some (.date 0) := rfl
  have haccepted := accepts_start noDocuments [] hwindow hstart
  refine ⟨hwindow, rfl, haccepted, fun hspans ↦ ?_⟩
  exact absurd (hspans.earliest _ rfl) (by decide)

end SessionWindow

end EventCatalog
