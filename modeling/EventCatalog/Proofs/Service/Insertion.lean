import EventCatalog.Proofs.Dialogue.Ending
import EventCatalog.Proofs.Event.Draft
import EventCatalog.Proofs.Event.SessionTimes

/-!
# How insertions end

An event or a session is stored by the last call of its operation, and the outcome of the operation
is the answer to that call.  An operation that ends in any other way has stored nothing: it was
turned down by the rules or, for a session, by what the store says about the event.
-/

namespace EventCatalog.Service

open Dialogue

/-- A session is accepted exactly if its request keeps the rules. -/
theorem checkSession_eq_ok_iff {draft : SessionDraft} :
    checkSession draft = .ok () ↔ draft.IsValid := by
  have horder : (if draft.endTime ≤ draft.startTime then
      .error (.validation "start_time must be before end_time")
      else .ok () : Except EventError Unit) = .ok () ↔ draft.startTime < draft.endTime := by
    rw [← not_le]
    split <;> simp_all
  rw [checkSession, bind_eq_ok_iff]
  constructor
  · rintro ⟨_, hcheck, hlt⟩
    obtain ⟨hname, hcapacity⟩ := SessionDraft.check_eq_ok_iff.1 hcheck
    exact ⟨hname, hcapacity, horder.1 hlt⟩
  · intro hvalid
    have hcheck := SessionDraft.check_eq_ok_iff.2 ⟨hvalid.name_length, hvalid.capacity_pos⟩
    exact ⟨(), hcheck, horder.2 hvalid.startTime_lt⟩

variable {tenantId : String} {now : Instant} {id : Uuid} {history : History StoreCall.Answer}

end EventCatalog.Service
