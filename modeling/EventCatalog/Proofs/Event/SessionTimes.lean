import EventCatalog.Event.Stored
import EventCatalog.Proofs.Instant.Millis
import EventCatalog.Proofs.Service

/-!
# Stored times of sessions

A session is stored only if it starts before it ends.  The check compares instants, the document
holds their milliseconds: a session shorter than a millisecond may be stored with no length at all,
and one that starts in a leap second may be stored as ending before it starts.
-/

namespace EventCatalog.Service

open Dialogue

theorem startTime_lt_of_checkSession {draft : SessionDraft} (h : checkSession draft = .ok ()) :
    draft.startTime < draft.endTime := by
  obtain ⟨_, -, horder⟩ := bind_eq_ok_iff.1 h
  refine not_le.1 fun hle ↦ ?_
  rw [if_pos hle] at horder
  cases horder

variable {tenantId : String} {eventId : Uuid} {draft : SessionDraft} {now : Instant} {id : Uuid}
  {history : History StoreCall.Answer} {session : Session}

theorem session_of_asks_insertSession
    (h : (createSession tenantId eventId draft now id).Asks history (.insertSession session)) :
    checkSession draft = .ok () ∧ session = draft.toSession eventId now id := by
  obtain ⟨hcheck, ⟨-, hasked⟩ | ⟨-, hasked⟩⟩ := asks_createSession.1 h
  · cases hasked
  · exact ⟨hcheck, StoreCall.insertSession.inj hasked⟩

/-- A session that is stored starts before it ends, and its stored times are in this order but in
two cases: both times lie in one millisecond, or a leap second runs into the second after it.  Apart
from starts in a leap second, the stored times are at least not in the reverse order. -/
theorem stored_times_of_insertSession
    (h : (createSession tenantId eventId draft now id).Asks history (.insertSession session)) :
    session.startTime < session.endTime ∧
      ∃ start finish : Int,
        session.toDocument.get? "start_time" = some (.date start) ∧
        session.toDocument.get? "end_time" = some (.date finish) ∧
        (start < finish ↔ ¬session.startTime.SameMillisecond session.endTime ∧
          ¬session.startTime.FoldsOver session.endTime) ∧
        (¬session.startTime.InLeapSecond → start ≤ finish) := by
  obtain ⟨hcheck, rfl⟩ := session_of_asks_insertSession h
  have horder : draft.startTime < draft.endTime := startTime_lt_of_checkSession hcheck
  refine ⟨horder, draft.startTime.toMillis, draft.endTime.toMillis, rfl, rfl, ?_, fun hleap ↦ ?_⟩
  · exact Instant.toMillis_lt_iff_of_lt horder
  · exact Instant.toMillis_le_of_le hleap (le_of_lt horder)

/-- A session between two points of time, given by their seconds and nanoseconds. -/
def draftBetween (start finish : Int × Nat) : SessionDraft where
  name := none
  capacity := none
  startTime := (Instant.make? start.1 start.2).getD .epoch
  endTime := (Instant.make? finish.1 finish.2).getD .epoch

theorem stored_times_of_insertSession_hour :
    let draft := draftBetween (0, 0) (3600, 0)
    let session := draft.toSession .nil .epoch .nil
    (createSession "tenant" .nil draft .epoch .nil).Asks
        [⟨.eventExists "tenant" .nil, (.ok true : Except EventError Bool)⟩]
        (.insertSession session) ∧
      ∃ start finish : Int,
        session.toDocument.get? "start_time" = some (.date start) ∧
        session.toDocument.get? "end_time" = some (.date finish) ∧ start < finish := by
  intro draft session
  have hasks : (createSession "tenant" .nil draft .epoch .nil).Asks
      [⟨.eventExists "tenant" .nil, (.ok true : Except EventError Bool)⟩]
      (.insertSession session) := asks_createSession.2 ⟨rfl, .inr ⟨rfl, rfl⟩⟩
  obtain ⟨-, start, finish, hstart, hfinish, hlt, -⟩ := stored_times_of_insertSession hasks
  exact ⟨hasks, start, finish, hstart, hfinish, hlt.2 (by decide)⟩

/-- A session of a tenth of a millisecond is stored as ending when it starts, and one from the middle
of a leap second to the beginning of the next second as ending before it starts. -/
theorem stored_times_out_of_order :
    let stores (draft : SessionDraft) (start finish : Int) : Prop :=
      let session := draft.toSession .nil .epoch .nil
      (createSession "tenant" .nil draft .epoch .nil).Asks
          [⟨.eventExists "tenant" .nil, (.ok true : Except EventError Bool)⟩]
          (.insertSession session) ∧
        session.toDocument.get? "start_time" = some (.date start) ∧
        session.toDocument.get? "end_time" = some (.date finish)
    stores (draftBetween (0, 100000) (0, 200000)) 0 0 ∧
      stores (draftBetween (59, 1500000000) (60, 200000000)) 60500 60200 := by
  refine ⟨⟨?_, rfl, rfl⟩, ?_, rfl, rfl⟩
  · exact asks_createSession.2 ⟨rfl, .inr ⟨rfl, rfl⟩⟩
  · exact asks_createSession.2 ⟨rfl, .inr ⟨rfl, rfl⟩⟩

end EventCatalog.Service
