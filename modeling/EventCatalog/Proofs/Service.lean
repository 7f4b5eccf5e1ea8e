import EventCatalog.Proofs.Dialogue
import EventCatalog.Proofs.Except
import EventCatalog.Service

/-!
# Calls of the service

What each operation of the service asks of the store, and after which answers.  All checks of an
input come before the first call.
-/

namespace EventCatalog

namespace Service

open Dialogue

variable {settings : PageSettings} {history : History StoreCall.Answer} {asked : StoreCall}

theorem asks_pageMode {plan : Plan} :
    (pageMode plan).Asks history asked ↔
      plan.isCursorMode = false ∧ history = [] ∧ asked = .fetchCount plan := by
  cases hmode : plan.isCursorMode with
  | true => simp [pageMode, hmode]
  | false =>
    have hcall : pageMode plan = .call (.fetchCount plan) fun total ↦
        pure (.offset plan.offset total) := by
      rw [pageMode, hmode]
      rfl
    rw [hcall, asks_call]
    simp

/-- A listing asks for the rows of its plan and, following an offset, for their number. -/
theorem asks_list {filter : EventFilter} {audience : Audience} :
    (list settings filter audience).Asks history asked ↔
      ∃ plan, checkTenant filter audience = .ok () ∧
        Plan.ofFilter filter audience settings = .ok plan ∧
        ((history = [] ∧ asked = .fetchPage plan) ∨
          ∃ rows : List Event,
            history = [⟨.fetchPage plan, (.ok rows : Except EventError (List Event))⟩] ∧
              plan.isCursorMode = false ∧ asked = .fetchCount plan) := by
  have hplan : ∀ plan, (do
      checkTenant filter audience
      Plan.ofFilter filter audience settings) = .ok plan ↔
        checkTenant filter audience = .ok () ∧
          Plan.ofFilter filter audience settings = .ok plan := by
    intro plan
    rw [bind_eq_ok_iff]
    exact ⟨fun ⟨_, hchecks⟩ ↦ hchecks, fun hchecks ↦ ⟨(), hchecks⟩⟩
  have hpage : ∀ (plan : Plan) (answer : Except EventError (List Event)) rest,
      Dialogue.Asks (onSuccess answer fun rows ↦ do
        return .ok (Page.ofRows Event.position rows plan.limit (← pageMode plan))) rest asked ↔
          ∃ rows, answer = .ok rows ∧ plan.isCursorMode = false ∧ rest = [] ∧
            asked = .fetchCount plan := by
    intro plan answer rest
    simp only [asks_onSuccess, asks_bind_pure, asks_pageMode]
  refine asks_onSuccess.trans (exists_congr fun plan ↦ ?_)
  rw [hplan, and_assoc]
  refine and_congr_right fun _ ↦ and_congr_right fun _ ↦ asks_ask_bind.trans ?_
  refine or_congr_right ?_
  constructor
  · rintro ⟨answer, rest, hhistory, hasked⟩
    obtain ⟨rows, rfl, hmode, rfl, hcount⟩ := (hpage plan answer rest).1 hasked
    exact ⟨rows, hhistory, hmode, hcount⟩
  · rintro ⟨rows, hhistory, hmode, hcount⟩
    exact ⟨.ok rows, [], hhistory, (hpage plan _ _).2 ⟨rows, rfl, hmode, rfl, hcount⟩⟩

/-- One event is asked for as a page. -/
theorem asks_getEvent {tenantId : String} {id : Uuid} :
    (getEvent settings tenantId id).Asks history asked ↔
      ∃ plan, Plan.ofFilter (eventFilter tenantId id) .console settings = .ok plan ∧
        history = [] ∧ asked = .fetchPage plan := by
  refine asks_onSuccess.trans (exists_congr fun plan ↦ and_congr_right fun _ ↦ ?_)
  exact asks_bind_pure.trans asks_ask

theorem asks_createEvent {tenantId : String} {actor : Option String} {draft : EventDraft}
    {now : Instant} {id : Uuid} :
    (createEvent tenantId actor draft now id).Asks history asked ↔
      Validation.check draft.faults = .ok () ∧ history = [] ∧
        asked = .insertEvent (draft.toEvent tenantId actor now id) := by
  refine asks_onSuccess.trans (Iff.trans ?_ (and_congr_right fun _ ↦ asks_ask))
  constructor
  · rintro ⟨_, hcheck, hasked⟩
    exact ⟨hcheck, hasked⟩
  · rintro ⟨hcheck, hasked⟩
    exact ⟨(), hcheck, hasked⟩

/-- A session is stored only once its event was found. -/
theorem asks_createSession {tenantId : String} {eventId : Uuid} {draft : SessionDraft}
    {now : Instant} {id : Uuid} :
    (createSession tenantId eventId draft now id).Asks history asked ↔
      checkSession draft = .ok () ∧
        ((history = [] ∧ asked = .eventExists tenantId eventId) ∨
          history = [⟨.eventExists tenantId eventId, (.ok true : Except EventError Bool)⟩] ∧
            asked = .insertSession (draft.toSession eventId now id)) := by
  have hinsert : ∀ (answer : Except EventError Bool) rest,
      Dialogue.Asks (onSuccess answer fun found ↦
        if found then Store.insertSession (draft.toSession eventId now id)
        else .fail (.notFound eventId)) rest asked ↔
          answer = .ok true ∧ rest = [] ∧
            asked = .insertSession (draft.toSession eventId now id) := by
    intro answer rest
    refine asks_onSuccess.trans ?_
    constructor
    · rintro ⟨found, hanswer, hasked⟩
      cases found with
      | true => exact ⟨hanswer, asks_ask.1 hasked⟩
      | false => exact absurd hasked (not_asks_done _ _ _)
    · rintro ⟨hanswer, hasked⟩
      exact ⟨true, hanswer, asks_ask.2 hasked⟩
  refine asks_onSuccess.trans ?_
  constructor
  · rintro ⟨_, hcheck, hasked⟩
    refine ⟨hcheck, (asks_ask_bind.1 hasked).imp_right ?_⟩
    rintro ⟨answer, rest, hhistory, hlater⟩
    obtain ⟨rfl, rfl, hcall⟩ := (hinsert answer rest).1 hlater
    exact ⟨hhistory, hcall⟩
  · rintro ⟨hcheck, hasked⟩
    refine ⟨(), hcheck, asks_ask_bind.2 (hasked.imp_right ?_)⟩
    rintro ⟨hhistory, hcall⟩
    exact ⟨.ok true, [], hhistory, (hinsert _ _).2 ⟨rfl, rfl, hcall⟩⟩

end Service

end EventCatalog
