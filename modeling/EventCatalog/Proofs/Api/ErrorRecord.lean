import EventCatalog.Proofs.Api.Outcome
import EventCatalog.Proofs.Api.Tenancy

/-!
# Records of errors

How errors are answered at the resources of events.  Whatever goes wrong is answered with the record
of an error, which repeats the status, with one exception: a path that names no identifier and a
body that cannot be read are answered with a plain text, before the store is asked.
-/

namespace EventCatalog.Api

open Http Dialogue

variable {app : Application} {settings : PageSettings} {stamp : Stamp} {request : Request}
  {resource : Resource} {segment : String} {history : History StoreCall.Answer} {r : Response}
  {rejection : Rejection}

/-- Whether a resource is one of events. -/
def Resource.IsOfEvents : Resource → Prop
  | .events => True
  | .event _ => True
  | .sessions _ => True
  | .publicEvents => True
  | _ => False

/-- The record of an error. -/
def errorRecord (status : Nat) (name message : String) : Json :=
  .object [("code", .int status), ("error", .string name), ("message", .string message)]

/-- Whether a request names its tenant, but its path names no identifier or its body cannot be read;
the path comes before the body. -/
inductive IsUnreadable (request : Request) : Resource → Rejection → Prop
  | event {tenant segment : String} {rejection : Rejection} (htenant : NamesTenant request tenant)
      (hid : Input.identifier segment = .error rejection) :
      IsUnreadable request (.event segment) rejection
  | newEvent {tenant : String} {rejection : Rejection} (htenant : NamesTenant request tenant)
      (hmethod : request.method = .post)
      (hread : Input.record EventDraft.decode request = .error rejection) :
      IsUnreadable request .events rejection
  | sessions {tenant segment : String} {rejection : Rejection}
      (htenant : NamesTenant request tenant)
      (hid : Input.identifier segment = .error rejection) :
      IsUnreadable request (.sessions segment) rejection
  | newSession {tenant segment : String} {id : Uuid} {rejection : Rejection}
      (htenant : NamesTenant request tenant) (hid : Input.identifier segment = .ok id)
      (hread : Input.record SessionDraft.decode request = .error rejection) :
      IsUnreadable request (.sessions segment) rejection

section Unreadable

/-- Whether a rejection is answered with a plain text and the status of an unreadable request. -/
structure Rejection.IsPlain (rejection : Rejection) : Prop where
  status : rejection.toResponse.status ∈ [400, 413, 415, 422]
  contentType : rejection.toResponse.contentType = some "text/plain; charset=utf-8"
  body : ∃ text, rejection.toResponse.body = .text text

theorem Rejection.isPlain_of_ne_failed (h : ∀ e, rejection ≠ .failed e) : rejection.IsPlain := by
  cases rejection with
  | failed e => exact absurd rfl (h e)
  | _ => exact ⟨by decide, rfl, _, rfl⟩

theorem Input.isPlain_of_identifier (h : Input.identifier segment = .error rejection) :
    rejection.IsPlain := by
  apply Rejection.isPlain_of_ne_failed
  rintro e rfl
  rw [Input.identifier] at h
  split at h <;> cases h

theorem Input.isPlain_of_record {α : Type} {decode : Json.Decoder α}
    (h : Input.record decode request = .error rejection) : rejection.IsPlain := by
  apply Rejection.isPlain_of_ne_failed
  rintro e rfl
  rw [Input.record] at h
  split at h
  · cases h
  · split at h
    · cases h
    · split at h <;> cases h

theorem IsUnreadable.isPlain (h : IsUnreadable request resource rejection) : rejection.IsPlain := by
  cases h with
  | event _ hid => exact Input.isPlain_of_identifier hid
  | newEvent _ _ hread => exact Input.isPlain_of_record hread
  | sessions _ hid => exact Input.isPlain_of_identifier hid
  | newSession _ _ hread => exact Input.isPlain_of_record hread

/-- An unreadable request is turned down before the store is asked. -/
theorem IsUnreadable.perform_eq (h : IsUnreadable request resource rejection) :
    perform app stamp request resource = pure rejection.toResponse := by
  cases h with
  | event htenant hid =>
    rw [perform, showEvent, Input.tenant_eq_ok_iff.2 htenant, hid]
    rfl
  | newEvent htenant hmethod hread =>
    rw [perform, if_pos hmethod, createEvent, Input.tenant_eq_ok_iff.2 htenant, hread]
    rfl
  | sessions htenant hid =>
    rw [perform, createSession, Input.tenant_eq_ok_iff.2 htenant, hid]
    rfl
  | newSession htenant hid hread =>
    rw [perform, createSession, Input.tenant_eq_ok_iff.2 htenant, hid, hread]
    rfl

end Unreadable

section Readable

/-- Whether a response is no error, or the record of one. -/
def IsRecorded (r : Response) : Prop := 400 ≤ r.status → ∃ e, r = errorResponse e

theorem Input.isRecorded_of_tenant (h : Input.tenant request = .error rejection) :
    IsRecorded rejection.toResponse := by
  rw [Input.tenant] at h
  split at h
  · cases h
  · cases h
    exact fun _ ↦ ⟨_, rfl⟩

theorem Input.isRecorded_of_filter (h : Input.filter settings request = .error rejection) :
    IsRecorded rejection.toResponse := by
  rw [Input.filter] at h
  cases hfilter : (EventQuery.ofQueryString request.target.queryBytes).bind
      (·.toFilter settings) with
  | ok filter =>
    rw [hfilter] at h
    cases h
  | error e =>
    rw [hfilter] at h
    cases h
    exact fun _ ↦ ⟨e, rfl⟩

/-- What an operation asks for is no error, or the record of one. -/
theorem isRecorded_operate_pure {α : Type} {status : Nat} {toJson : α → Json}
    {m : Interaction (Except EventError α)} (hstatus : status < 400)
    (h : (operate status toJson (pure m)).Ends history r) : IsRecorded r := by
  obtain ⟨outcome, -, rfl⟩ := ends_operate_pure.1 h
  intro herror
  cases outcome with
  | ok a => exact absurd herror (Nat.not_le_of_lt hstatus)
  | error e => exact ⟨e, rfl⟩

theorem isRecorded_listEvents (h : (listEvents settings request).Ends history r) :
    IsRecorded r := by
  apply of_ends_operate_bind h fun _ ↦ Input.isRecorded_of_tenant
  intro tenant _ h
  apply of_ends_operate_bind h fun _ ↦ Input.isRecorded_of_filter
  intro filter _ h
  exact isRecorded_operate_pure (by decide) h

theorem isRecorded_listPublicEvents (h : (listPublicEvents settings request).Ends history r) :
    IsRecorded r := by
  apply of_ends_operate_bind h fun _ ↦ Input.isRecorded_of_filter
  intro filter _ h
  exact isRecorded_operate_pure (by decide) h

theorem isRecorded_showEvent
    (hreadable : ∀ rejection, ¬IsUnreadable request (.event segment) rejection)
    (h : (showEvent settings segment request).Ends history r) : IsRecorded r := by
  apply of_ends_operate_bind h fun _ ↦ Input.isRecorded_of_tenant
  intro tenant htenant h
  have hnames := Input.tenant_eq_ok_iff.1 htenant
  apply of_ends_operate_bind h fun rejection hid ↦ absurd (.event hnames hid) (hreadable _)
  intro id _ h
  exact isRecorded_operate_pure (by decide) h

theorem isRecorded_createEvent (hmethod : request.method = .post)
    (hreadable : ∀ rejection, ¬IsUnreadable request .events rejection)
    (h : (createEvent stamp request).Ends history r) : IsRecorded r := by
  apply of_ends_operate_bind h fun _ ↦ Input.isRecorded_of_tenant
  intro tenant htenant h
  have hnames := Input.tenant_eq_ok_iff.1 htenant
  apply of_ends_operate_bind h fun rejection hread ↦
    absurd (.newEvent hnames hmethod hread) (hreadable _)
  intro draft _ h
  exact isRecorded_operate_pure (by decide) h

theorem isRecorded_createSession
    (hreadable : ∀ rejection, ¬IsUnreadable request (.sessions segment) rejection)
    (h : (createSession stamp segment request).Ends history r) : IsRecorded r := by
  apply of_ends_operate_bind h fun _ ↦ Input.isRecorded_of_tenant
  intro tenant htenant h
  have hnames := Input.tenant_eq_ok_iff.1 htenant
  apply of_ends_operate_bind h fun rejection hid ↦ absurd (.sessions hnames hid) (hreadable _)
  intro id hid h
  apply of_ends_operate_bind h fun rejection hread ↦
    absurd (.newSession hnames hid hread) (hreadable _)
  intro draft _ h
  exact isRecorded_operate_pure (by decide) h

/-- A request that can be read is answered without an error or with the record of one. -/
theorem isRecorded_perform (hevents : resource.IsOfEvents)
    (hreadable : ∀ rejection, ¬IsUnreadable request resource rejection)
    (h : (perform app stamp request resource).Ends history r) : IsRecorded r := by
  cases resource with
  | events =>
    rw [perform] at h
    split at h
    next hpost => exact isRecorded_createEvent hpost hreadable h
    next => exact isRecorded_listEvents h
  | event segment => exact isRecorded_showEvent hreadable h
  | sessions segment => exact isRecorded_createSession hreadable h
  | publicEvents => exact isRecorded_listPublicEvents h
  | _ => exact hevents.elim

end Readable

/-- A request to a resource of events is answered with an error in one of two ways.  If it cannot be
read, the store is not asked, and the answer is a plain text.  Otherwise an answer with the status
of an error is the record of an error, which repeats the status.  `HEAD` gets either without its
body. -/
theorem error_isPlain_or_isRecorded (app : Application) (stamp : Stamp) (request : Request)
    (resource : Resource) (htarget : Resource.ofTarget? request.target = some resource)
    (hevents : resource.IsOfEvents) (hmethod : resource.methods.contains request.method = true)
    (hlimit : app.requestLimit ≠ 0) (script : List ScriptedReply)
    (harrives : ∀ reply ∈ script, reply.hangs = false) :
    let result := exchange app stamp request script
    (∀ rejection, IsUnreadable request resource rejection →
      result.calls = [] ∧ result.response.status = rejection.toResponse.status ∧
        result.response.status ∈ [400, 413, 415, 422] ∧
        result.response.contentType = some "text/plain; charset=utf-8" ∧
        (request.method ≠ .head → ∃ text, result.response.body = .text text)) ∧
    ((∀ rejection, ¬IsUnreadable request resource rejection) → 400 ≤ result.response.status →
      ∃ e : EventError, result.response.status = e.status ∧
        result.response.contentType = some "application/json" ∧
        (request.method ≠ .head →
          result.response.body = .json (errorRecord e.status e.name e.publicMessage))) := by
  intro result
  have hne : resource ≠ .readiness := by
    rintro rfl
    exact hevents
  obtain ⟨r, hends, hresponse⟩ := exists_ends_exchange hlimit harrives
  rw [handling_of_mem_methods htarget hne hmethod] at hends
  have hstatus : result.response.status = r.status := by
    rw [hresponse, Handling.status_finish]
  have hcontentType : result.response.contentType = r.contentType := by
    rw [hresponse, Handling.contentType_finish]
  have hbody : request.method ≠ .head → result.response.body = r.body := by
    intro hnotHead
    rw [hresponse, Handling.body_finish _ _ hnotHead]
  rw [hstatus, hcontentType]
  constructor
  · intro rejection hunreadable
    have hplain := hunreadable.isPlain
    rw [hunreadable.perform_eq] at hends
    obtain ⟨hnone, rfl⟩ := ends_pure.1 hends
    have hcalls : result.calls = [] := by
      rw [← map_fst_answered result.calls script, hnone, List.map_nil]
    refine ⟨hcalls, rfl, hplain.status, hplain.contentType, fun hnotHead ↦ ?_⟩
    rw [hbody hnotHead]
    exact hplain.body
  · intro hreadable herror
    obtain ⟨e, rfl⟩ := isRecorded_perform hevents hreadable hends herror
    exact ⟨e, rfl, rfl, hbody⟩

/-- A request for the event that its path calls 1, which is no identifier. -/
def numberRequest : Request where
  method := .get
  target := ⟨"/api/console/events/1", ""⟩
  headers := [⟨Input.tenantField, Text.toBytes "t1"⟩]
  body := []

/-- The same request without a tenant. -/
def namelessRequest : Request := { numberRequest with headers := [] }

theorem tenant_numberRequest : Input.tenant numberRequest = .ok "t1" := by
  decide +kernel

theorem isUnreadable_numberRequest : IsUnreadable numberRequest (.event "1") .invalidPath := by
  have hid : Input.identifier "1" = .error .invalidPath := by
    decide +kernel
  exact .event (Input.tenant_eq_ok_iff.1 tenant_numberRequest) hid

theorem not_isUnreadable_namelessRequest (rejection : Rejection) :
    ¬IsUnreadable namelessRequest (.event "1") rejection := by
  intro h
  cases h with
  | event htenant hid =>
    obtain ⟨field, text, hfield, -⟩ := htenant
    cases hfield

theorem error_isPlain_or_isRecorded_number :
    let plain := exchange ⟨.standard, 1⟩ ⟨.epoch, .nil⟩ numberRequest []
    let recorded := exchange ⟨.standard, 1⟩ ⟨.epoch, .nil⟩ namelessRequest []
    (plain.calls = [] ∧ plain.response.status = 400 ∧ ∃ text, plain.response.body = .text text) ∧
      ∃ e : EventError, recorded.response.status = e.status ∧
        recorded.response.body = .json (errorRecord e.status e.name e.publicMessage) := by
  intro plain recorded
  have htarget : Resource.ofTarget? numberRequest.target = some (.event "1") := by
    decide +kernel
  have herror : 400 ≤ recorded.response.status := by
    decide +kernel
  obtain ⟨hplain, -⟩ := error_isPlain_or_isRecorded ⟨.standard, 1⟩ ⟨.epoch, .nil⟩ numberRequest
    (.event "1") htarget trivial rfl (by decide) [] (List.forall_mem_nil _)
  obtain ⟨-, hrecorded⟩ := error_isPlain_or_isRecorded ⟨.standard, 1⟩ ⟨.epoch, .nil⟩
    namelessRequest (.event "1") htarget trivial rfl (by decide) [] (List.forall_mem_nil _)
  obtain ⟨hcalls, hstatus, -, -, htext⟩ := hplain _ isUnreadable_numberRequest
  obtain ⟨e, hsame, -, hrecord⟩ := hrecorded not_isUnreadable_namelessRequest herror
  exact ⟨⟨hcalls, hstatus, htext (by decide)⟩, e, hsame, hrecord (by decide)⟩

/-- Not every error is answered with a record that repeats the status. -/
theorem plain_numberRequest :
    let result := exchange ⟨.standard, 1⟩ ⟨.epoch, .nil⟩ numberRequest []
    Resource.ofTarget? numberRequest.target = some (.event "1") ∧
      (Resource.event "1").methods.contains numberRequest.method = true ∧
      result.response.status = 400 ∧
      ¬∃ name message, result.response.body =
        .json (errorRecord result.response.status name message) := by
  intro result
  have htarget : Resource.ofTarget? numberRequest.target = some (.event "1") := by
    decide +kernel
  have hhandling : handling ⟨.standard, 1⟩ ⟨.epoch, .nil⟩ numberRequest =
      ⟨true, none, pure Rejection.invalidPath.toResponse⟩ := by
    rw [handling_of_mem_methods htarget (by decide) rfl, isUnreadable_numberRequest.perform_eq]
    rfl
  have hstatus : result.response.status = 400 := by
    decide +kernel
  have hbody : result.response.body = Rejection.invalidPath.toResponse.body := by
    change (exchange ⟨.standard, 1⟩ ⟨.epoch, .nil⟩ numberRequest []).response.body = _
    rw [exchange, hhandling]
    exact Handling.body_finish _ _ (by decide)
  refine ⟨htarget, rfl, hstatus, ?_⟩
  rintro ⟨name, message, hjson⟩
  cases hbody.symm.trans hjson

end EventCatalog.Api
