import EventCatalog.Api.Handling
import EventCatalog.Proofs.Query.Parameters
import EventCatalog.Proofs.Service

/-!
# Calls of requests

What a request makes the application ask of the store: the operation of the resource that its path
leads to, once the input of that operation is read.  A request that leads nowhere, or whose method
the resource does not have, asks nothing.

Requests that differ in their parameters or their bodies alone are handled alike when the operation
makes nothing of the difference.
-/

namespace EventCatalog

namespace EventQuery

/-- A query without its tenant, status and visibility. -/
def unscoped (q : EventQuery) : EventQuery :=
  { q with tenantId := none, status := none, visibility := none }

/-- Tenant, status and visibility go from a query into its filter, and decide nothing else. -/
theorem toFilter_eq_map_unscoped (q : EventQuery) (settings : PageSettings) :
    q.toFilter settings =
      (fun f : EventFilter ↦
        { f with
          tenantId := nonBlank q.tenantId
          status := q.status
          visibility := q.visibility }) <$> q.unscoped.toFilter settings := by
  have hchecked : q.unscoped.checked = q.checked := rfl
  rw [toFilter_eq_map, toFilter_eq_map, hchecked]
  cases q.checked with
  | error e => rfl
  | ok parts => rfl

end EventQuery

namespace Api

open Http Dialogue

variable {app : Application} {settings : PageSettings} {stamp : Stamp} {request : Request}
  {segment : String} {history : History StoreCall.Answer} {asked : StoreCall}

theorem Input.filter_eq_map_unscoped {q : EventQuery}
    (h : EventQuery.ofQueryString request.target.queryBytes = .ok q) :
    Input.filter settings request =
      (fun f : EventFilter ↦
        { f with
          tenantId := EventQuery.nonBlank q.tenantId
          status := q.status
          visibility := q.visibility }) <$>
        (q.unscoped.toFilter settings).mapError Rejection.failed := by
  rw [Input.filter, h]
  change (q.toFilter settings).mapError Rejection.failed = _
  rw [q.toFilter_eq_map_unscoped]
  cases q.unscoped.toFilter settings with
  | ok f => rfl
  | error e => rfl

section Operate

variable {α β : Type} {status : Nat} {toJson : α → Json}

theorem asks_operate_pure {m : Interaction (Except EventError α)} :
    (operate status toJson (pure m)).Asks history asked ↔ m.Asks history asked :=
  asks_bind_pure

/-- An operation asks nothing before its inputs are read. -/
theorem asks_operate_bind {input : Except Rejection β}
    {f : β → Except Rejection (Interaction (Except EventError α))} :
    (operate status toJson (input >>= f)).Asks history asked ↔
      ∃ b, input = .ok b ∧ (operate status toJson (f b)).Asks history asked := by
  cases input with
  | ok b =>
    change (operate status toJson (f b)).Asks history asked ↔ _
    simp
  | error r =>
    change (pure r.toResponse : Interaction Response).Asks history asked ↔ _
    simp

end Operate

theorem asks_listEvents :
    (listEvents settings request).Asks history asked ↔
      ∃ tenant, Input.tenant request = .ok tenant ∧
        ∃ filter, Input.filter settings request = .ok filter ∧
          (Service.list settings { filter with tenantId := some tenant } .console).Asks
            history asked := by
  simp only [listEvents, asks_operate_bind, asks_operate_pure]

theorem asks_listPublicEvents :
    (listPublicEvents settings request).Asks history asked ↔
      ∃ filter, Input.filter settings request = .ok filter ∧
        (Service.list settings filter .everyone).Asks history asked := by
  simp only [listPublicEvents, asks_operate_bind, asks_operate_pure]

theorem asks_showEvent :
    (showEvent settings segment request).Asks history asked ↔
      ∃ tenant, Input.tenant request = .ok tenant ∧
        ∃ id, Input.identifier segment = .ok id ∧
          (Service.getEvent settings tenant id).Asks history asked := by
  simp only [showEvent, asks_operate_bind, asks_operate_pure]

theorem asks_createEvent :
    (createEvent stamp request).Asks history asked ↔
      ∃ tenant, Input.tenant request = .ok tenant ∧
        ∃ draft, Input.record EventDraft.decode request = .ok draft ∧
          (Service.createEvent tenant (Input.actor? request) draft stamp.now stamp.id).Asks
            history asked := by
  simp only [createEvent, asks_operate_bind, asks_operate_pure]

theorem asks_createSession :
    (createSession stamp segment request).Asks history asked ↔
      ∃ tenant, Input.tenant request = .ok tenant ∧
        ∃ id, Input.identifier segment = .ok id ∧
          ∃ draft, Input.record SessionDraft.decode request = .ok draft ∧
            (Service.createSession tenant id draft stamp.now stamp.id).Asks history asked := by
  simp only [createSession, asks_operate_bind, asks_operate_pure]

theorem handling_of_ofTarget? {resource : Resource}
    (h : Resource.ofTarget? request.target = some resource) (hne : resource ≠ .readiness) :
    handling app stamp request =
      if resource.methods.contains request.method then
        ⟨resource.isBounded, none, perform app stamp request resource⟩
      else ⟨resource.isBounded, some resource.methods, pure (.ofStatus 405)⟩ := by
  rw [handling, h, Option.filter_some, if_pos (decide_eq_true hne)]

/-- A request asks what the resource of its path does for its method. -/
theorem asks_handling :
    (handling app stamp request).respond.Asks history asked ↔
      ∃ resource, Resource.ofTarget? request.target = some resource ∧
        resource.methods.contains request.method = true ∧
        (perform app stamp request resource).Asks history asked := by
  cases htarget : Resource.ofTarget? request.target with
  | none => simp [handling, htarget]
  | some resource =>
    by_cases hreadiness : resource = .readiness
    · have hrespond : (handling app stamp request).respond = pure (unknownPath request) := by
        rw [handling, htarget, hreadiness]
        rfl
      simp [hrespond, hreadiness, perform]
    · rw [handling_of_ofTarget? htarget hreadiness]
      cases hmethod : resource.methods.contains request.method with
      | true =>
        rw [if_pos rfl]
        constructor
        · intro hasked
          exact ⟨resource, rfl, hmethod, hasked⟩
        · rintro ⟨_, hresource, -, hasked⟩
          cases hresource
          exact hasked
      | false =>
        rw [if_neg Bool.false_ne_true]
        refine iff_of_false (not_asks_pure _ _ _) ?_
        rintro ⟨_, hresource, hallowed, -⟩
        cases hresource
        exact Bool.false_ne_true (hmethod.symm.trans hallowed)

theorem asks_perform {resource : Resource}
    (htarget : Resource.ofTarget? request.target = some resource)
    (h : (handling app stamp request).respond.Asks history asked) :
    (perform app stamp request resource).Asks history asked := by
  obtain ⟨served, hserved, -, hasked⟩ := asks_handling.1 h
  obtain rfl : resource = served := Option.some.inj (htarget.symm.trans hserved)
  exact hasked

/-- The calls that an exchange records are asked by its request, each after the answers that the
script gave. -/
theorem asks_of_exchange {script : List ScriptedReply} {front back : List StoreCall}
    (h : (exchange app stamp request script).calls = front ++ asked :: back) :
    (handling app stamp request).respond.Asks (answered front script) asked := by
  rw [exchange] at h
  split at h
  · simp at h
  · apply asks_of_play
    -- However the run ends, its calls are recorded.
    dsimp only at h
    split at h
    · exact h
    · exact h
    · exact h

/-- Whether two requests agree in everything but their parameters and their bodies. -/
structure AgreeBesideQuery (r₁ r₂ : Request) : Prop where
  method : r₁.method = r₂.method
  path : r₁.target.path = r₂.target.path
  headers : r₁.headers = r₂.headers

section Agreement

variable {r₁ r₂ : Request} {stamp₁ stamp₂ : Stamp}

theorem AgreeBesideQuery.ofTarget? (h : AgreeBesideQuery r₁ r₂) :
    Resource.ofTarget? r₁.target = Resource.ofTarget? r₂.target := by
  rw [Resource.ofTarget?, Resource.ofTarget?, Target.segments, Target.segments, h.path]

theorem AgreeBesideQuery.tenant (h : AgreeBesideQuery r₁ r₂) :
    Input.tenant r₁ = Input.tenant r₂ := by
  rw [Input.tenant, Input.tenant, Input.field?, Input.field?, h.headers]

theorem AgreeBesideQuery.handling {resource : Resource} (h : AgreeBesideQuery r₁ r₂)
    (htarget : Resource.ofTarget? r₁.target = some resource) (hne : resource ≠ .readiness)
    (hperform : perform app stamp₁ r₁ resource = perform app stamp₂ r₂ resource) :
    handling app stamp₁ r₁ = handling app stamp₂ r₂ := by
  rw [handling_of_ofTarget? htarget hne, handling_of_ofTarget? (h.ofTarget?.symm.trans htarget) hne,
    h.method, hperform]

/-- What is handled alike is answered alike by every script. -/
theorem AgreeBesideQuery.exchange (h : AgreeBesideQuery r₁ r₂)
    (hhandling : Api.handling app stamp₁ r₁ = Api.handling app stamp₂ r₂)
    (script : List ScriptedReply) :
    exchange app stamp₁ r₁ script = exchange app stamp₂ r₂ script := by
  have hfinish : (Api.handling app stamp₂ r₂).finish r₁ =
      (Api.handling app stamp₂ r₂).finish r₂ := by
    funext response
    rw [Handling.finish, Handling.finish, h.headers, h.method]
  rw [Api.exchange, Api.exchange, hhandling, hfinish]

end Agreement

end Api

end EventCatalog
