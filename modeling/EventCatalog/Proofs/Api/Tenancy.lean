import EventCatalog.Proofs.Api.Operation
import EventCatalog.Proofs.Plan.Requirement

/-!
# Isolation of tenants

A console request works for the tenant that its header field names, and for nobody else: whatever
the store answers, each call is confined to that tenant, and without such a field there is no call.
The tenant that the parameters of a listing name changes nothing.
-/

namespace EventCatalog.Api

open Http Mongo Dialogue

/-- Whether a resource belongs to a tenant. -/
def Resource.IsConsole : Resource → Prop
  | .events => True
  | .event _ => True
  | .sessions _ => True
  | _ => False

/-- Whether the first tenant field of a request is a text that trims to a tenant. -/
def NamesTenant (request : Request) (tenant : String) : Prop :=
  ∃ field text, (Header.named Input.tenantField request.headers).head? = some field ∧
    field.value.all isVisible = true ∧ Text.ofBytes? field.value = some text ∧
      Text.trim text = tenant ∧ tenant ≠ ""

/-- Whether a call, made for a resource after others, is confined to a tenant.  A session is stored
only for the event that the path names, once that event was found with the tenant. -/
def IsConfined (resource : Resource) (tenant : String) (history : History StoreCall.Answer) :
    StoreCall → Prop
  | .fetchPage plan => StartsRequiring plan.pipeline "tenant_id" tenant
  | .fetchCount plan => StartsRequiring plan.countPipeline "tenant_id" tenant
  | .eventExists owner _ => owner = tenant
  | .insertEvent event => event.tenantId = tenant
  | .insertSession session =>
    (∃ segment, resource = .sessions segment ∧
      Input.identifier segment = .ok session.eventId) ∧
    ⟨.eventExists tenant session.eventId, (.ok true : Except EventError Bool)⟩ ∈ history

variable {app : Application} {settings : PageSettings} {stamp : Stamp} {request : Request}
  {resource : Resource} {segment tenant : String} {history : History StoreCall.Answer}
  {asked : StoreCall}

theorem Input.field?_eq_some_iff {name text : String} :
    Input.field? name request = some text ↔
      (Header.firstText? name request.headers).map Text.trim = some text ∧ text ≠ "" := by
  rw [Input.field?, Option.filter_eq_some_iff]
  simp

/-- The tenant of a request is the one that its header field names. -/
theorem Input.tenant_eq_ok_iff :
    Input.tenant request = .ok tenant ↔ NamesTenant request tenant := by
  have hfield : Input.tenant request = .ok tenant ↔
      Input.field? Input.tenantField request = some tenant := by
    rw [Input.tenant]
    cases Input.field? Input.tenantField request with
    | none => simp
    | some text => simp
  rw [hfield, Input.field?_eq_some_iff, Header.firstText?]
  constructor
  · rintro ⟨htext, hne⟩
    obtain ⟨text, hfirst, htrim⟩ := Option.map_eq_some_iff.1 htext
    obtain ⟨field, hfield, hvalue⟩ := Option.bind_eq_some_iff.1 hfirst
    rw [Header.text?] at hvalue
    split at hvalue
    next hvisible => exact ⟨field, text, hfield, hvisible, hvalue, htrim, hne⟩
    next => cases hvalue
  · rintro ⟨field, text, hfield, hvisible, hvalue, htrim, hne⟩
    rw [hfield, Option.bind_some, Header.text?, if_pos hvisible, hvalue, Option.map_some, htrim]
    exact ⟨rfl, hne⟩

theorem startsRequiring_tenant {filter : EventFilter} {audience : Audience} {plan : Plan}
    (htenant : filter.tenantId = some tenant)
    (hplan : Plan.ofFilter filter audience settings = .ok plan) :
    StartsRequiring plan.pipeline "tenant_id" tenant ∧
      StartsRequiring plan.countPipeline "tenant_id" tenant := by
  apply Plan.startsRequiring_ofFilter hplan
  intro cursor
  exact Selection.requires_tenantId htenant

theorem isConfined_of_asks_list {filter : EventFilter} {audience : Audience}
    (htenant : filter.tenantId = some tenant)
    (h : (Service.list settings filter audience).Asks history asked) :
    IsConfined resource tenant history asked := by
  obtain ⟨plan, -, hplan, hcall⟩ := Service.asks_list.1 h
  obtain ⟨hpage, hcount⟩ := startsRequiring_tenant htenant hplan
  rcases hcall with ⟨-, rfl⟩ | ⟨rows, -, -, rfl⟩
  · exact hpage
  · exact hcount

theorem isConfined_of_asks_getEvent {id : Uuid}
    (h : (Service.getEvent settings tenant id).Asks history asked) :
    IsConfined resource tenant history asked := by
  obtain ⟨plan, hplan, -, rfl⟩ := Service.asks_getEvent.1 h
  have htenant : (Service.eventFilter tenant id).tenantId = some tenant := rfl
  exact (startsRequiring_tenant htenant hplan).1

theorem isConfined_of_asks_createSession {id : Uuid} {draft : SessionDraft}
    (hid : Input.identifier segment = .ok id)
    (h : (Service.createSession tenant id draft stamp.now stamp.id).Asks history asked) :
    IsConfined (.sessions segment) tenant history asked := by
  obtain ⟨-, ⟨-, rfl⟩ | ⟨rfl, rfl⟩⟩ := Service.asks_createSession.1 h
  · rfl
  · refine ⟨⟨segment, rfl, hid⟩, ?_⟩
    exact List.mem_singleton_self _

/-- What a console resource asks is confined to the tenant of the request. -/
theorem exists_tenant_of_asks_perform (hconsole : resource.IsConsole)
    (h : (perform app stamp request resource).Asks history asked) :
    ∃ tenant, Input.tenant request = .ok tenant ∧ IsConfined resource tenant history asked := by
  cases resource with
  | events =>
    rw [perform] at h
    split at h
    · obtain ⟨tenant, htenant, draft, -, hasked⟩ := asks_createEvent.1 h
      obtain ⟨-, -, rfl⟩ := Service.asks_createEvent.1 hasked
      exact ⟨tenant, htenant, rfl⟩
    · obtain ⟨tenant, htenant, filter, -, hasked⟩ := asks_listEvents.1 h
      exact ⟨tenant, htenant, isConfined_of_asks_list rfl hasked⟩
  | event segment =>
    obtain ⟨tenant, htenant, id, -, hasked⟩ := asks_showEvent.1 h
    exact ⟨tenant, htenant, isConfined_of_asks_getEvent hasked⟩
  | sessions segment =>
    obtain ⟨tenant, htenant, id, hid, draft, -, hasked⟩ := asks_createSession.1 h
    exact ⟨tenant, htenant, isConfined_of_asks_createSession hid hasked⟩
  | _ => exact hconsole.elim

/-- The tenant among the parameters of a listing is replaced by the one of the header field. -/
theorem listEvents_eq_of_agree {r₁ r₂ : Request} {q : EventQuery} {tenantId : Option String}
    (h : AgreeBesideQuery r₁ r₂)
    (h₁ : EventQuery.ofQueryString r₁.target.queryBytes = .ok q)
    (h₂ : EventQuery.ofQueryString r₂.target.queryBytes = .ok { q with tenantId }) :
    listEvents settings r₁ = listEvents settings r₂ := by
  have hrest : ({ q with tenantId } : EventQuery).unscoped = q.unscoped := rfl
  rw [listEvents, listEvents, h.tenant, Input.filter_eq_map_unscoped h₁,
    Input.filter_eq_map_unscoped h₂, hrest]
  simp only [bind_map_left]

/-- Console requests are isolated.  A request that makes any call names a tenant in its header
field, and all of its calls are confined to that tenant, in particular those that an exchange
records.  Two listings whose parameters differ in the tenant alone make the same calls and get the
same answers. -/
theorem console_isolated (app : Application) (stamp : Stamp) (request : Request)
    (resource : Resource) (htarget : Resource.ofTarget? request.target = some resource)
    (hconsole : resource.IsConsole) :
    ((∃ history asked, (handling app stamp request).respond.Asks history asked) →
      ∃ tenant, NamesTenant request tenant ∧
        ∀ history asked, (handling app stamp request).respond.Asks history asked →
          IsConfined resource tenant history asked) ∧
    (∀ script front asked back,
      (exchange app stamp request script).calls = front ++ asked :: back →
        ∃ tenant, NamesTenant request tenant ∧
          IsConfined resource tenant (answered front script) asked) ∧
    ∀ otherStamp other q tenantId, resource = .events → request.method ≠ .post →
      AgreeBesideQuery request other →
      EventQuery.ofQueryString request.target.queryBytes = .ok q →
      EventQuery.ofQueryString other.target.queryBytes = .ok { q with tenantId } →
        handling app stamp request = handling app otherStamp other ∧
          ∀ script, exchange app stamp request script = exchange app otherStamp other script := by
  have hconfined : ∀ {history asked}, (handling app stamp request).respond.Asks history asked →
      ∃ tenant, Input.tenant request = .ok tenant ∧ IsConfined resource tenant history asked :=
    fun hasked ↦ exists_tenant_of_asks_perform hconsole (asks_perform htarget hasked)
  refine ⟨?_, ?_, ?_⟩
  · rintro ⟨_, _, hsome⟩
    obtain ⟨tenant, htenant, -⟩ := hconfined hsome
    refine ⟨tenant, Input.tenant_eq_ok_iff.1 htenant, fun history asked hasked ↦ ?_⟩
    obtain ⟨same, hsame, hcall⟩ := hconfined hasked
    rw [htenant] at hsame
    cases hsame
    exact hcall
  · intro script front asked back hcalls
    obtain ⟨tenant, htenant, hcall⟩ := hconfined (asks_of_exchange hcalls)
    exact ⟨tenant, Input.tenant_eq_ok_iff.1 htenant, hcall⟩
  · rintro otherStamp other q tenantId rfl hlist hagree hquery hother
    have hperform : perform app stamp request .events = perform app otherStamp other .events := by
      rw [perform, perform, if_neg hlist, if_neg (hagree.method ▸ hlist)]
      exact listEvents_eq_of_agree hagree hquery hother
    have hhandling := hagree.handling htarget (by decide) hperform
    exact ⟨hhandling, hagree.exchange hhandling⟩

/-- A listing for the tenant `t1`, with parameters. -/
def listingOf (query : String) : Request where
  method := .get
  target := ⟨"/api/console/events", query⟩
  headers := [⟨Input.tenantField, Text.toBytes " t1 "⟩]
  body := []

theorem tenant_listingOf (query : String) : Input.tenant (listingOf query) = .ok "t1" := by
  apply Input.tenant_eq_ok_iff.2
  refine ⟨⟨Input.tenantField, Text.toBytes " t1 "⟩, " t1 ", ?_, ?_, ?_, ?_, ?_⟩
  · simp [listingOf, Header.named]
  · decide +kernel
  · decide +kernel
  · decide +kernel
  · decide

theorem ofTarget?_listingOf (query : String) :
    Resource.ofTarget? (listingOf query).target = some .events := by
  change Resource.ofSegments? (Text.splitText '/' "/api/console/events") = some .events
  decide +kernel

theorem ofQueryString_listingOf :
    EventQuery.ofQueryString (listingOf "tenant_id=a").target.queryBytes =
        .ok { (default : EventQuery) with tenantId := some "a" } ∧
      EventQuery.ofQueryString (listingOf "tenant_id=b").target.queryBytes =
        .ok { (default : EventQuery) with tenantId := some "b" } :=
  ⟨rfl, rfl⟩

theorem console_isolated_listingOf :
    ∃ plan, (exchange ⟨.standard, 1⟩ ⟨.epoch, .nil⟩ (listingOf "tenant_id=a") []).calls =
        [.fetchPage plan, .fetchCount plan] ∧
      StartsRequiring plan.pipeline "tenant_id" "t1" ∧
      StartsRequiring plan.countPipeline "tenant_id" "t1" ∧
      handling ⟨.standard, 1⟩ ⟨.epoch, .nil⟩ (listingOf "tenant_id=a") =
        handling ⟨.standard, 1⟩ ⟨.epoch, .nil⟩ (listingOf "tenant_id=b") := by
  obtain ⟨hquery, hother⟩ := ofQueryString_listingOf
  have hperform : perform ⟨.standard, 1⟩ ⟨.epoch, .nil⟩ (listingOf "tenant_id=a") .events =
      operate 200 eventPageJson
        (pure (Service.list .standard (EventFilter.forTenant "t1") .console)) := by
    rw [perform, if_neg (by decide), listEvents, tenant_listingOf,
      Input.filter_eq_map_unscoped hquery]
    rfl
  have hcalls : (exchange ⟨.standard, 1⟩ ⟨.epoch, .nil⟩ (listingOf "tenant_id=a") []).calls =
      [.fetchPage (.ofCursor (EventFilter.forTenant "t1") .console none none),
        .fetchCount (.ofCursor (EventFilter.forTenant "t1") .console none none)] := by
    rw [exchange, handling_of_ofTarget? (ofTarget?_listingOf _) (by decide), hperform]
    rfl
  obtain ⟨-, hrecorded, hsame⟩ := console_isolated ⟨.standard, 1⟩ ⟨.epoch, .nil⟩
    (listingOf "tenant_id=a") .events (ofTarget?_listingOf _) trivial
  have hunique : ∀ tenant, NamesTenant (listingOf "tenant_id=a") tenant → tenant = "t1" := by
    intro tenant hnames
    have hread := Input.tenant_eq_ok_iff.2 hnames
    rw [tenant_listingOf] at hread
    exact (Except.ok.inj hread).symm
  obtain ⟨tenant, hnames, hpage⟩ := hrecorded [] [] _ _ hcalls
  obtain rfl := hunique tenant hnames
  obtain ⟨tenant, hnames, hcount⟩ := hrecorded [] [_] _ [] hcalls
  obtain rfl := hunique tenant hnames
  have halike := (hsame ⟨.epoch, .nil⟩ (listingOf "tenant_id=b") _ (some "b") rfl (by decide)
    ⟨rfl, rfl, rfl⟩ hquery hother).1
  exact ⟨_, hcalls, hpage, hcount, halike⟩

end EventCatalog.Api
