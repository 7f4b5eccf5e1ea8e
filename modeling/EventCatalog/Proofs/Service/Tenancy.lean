import EventCatalog.Proofs.Plan.Requirement
import EventCatalog.Proofs.Service.Insertion
import EventCatalog.Proofs.Service.Listing

/-!
# Blank tenants

What the operations of a tenant do when they are called for a tenant without a name.  A listing
looks at its tenant before anything else and is refused.  The other operations look at the rest of
their input alone: what passes their rules reaches the store under the tenant as it is, blank or
not.
-/

namespace EventCatalog.Service

open Dialogue Mongo

variable {α : Type} {settings : PageSettings} {filter : EventFilter} {tenantId : String}
  {actor : Option String} {now : Instant} {id eventId : Uuid} {script : List ScriptedReply}

/-- Whether an operation is turned down for its input, without a call, whatever the store has to
say. -/
def IsRejected (m : Interaction (Except EventError α)) : Prop :=
  ∃ detail, ∀ script, m.run script = ⟨[], .finished (.error (.validation detail))⟩

/-- An operation that fails before its first call is turned down. -/
theorem isRejected_onSuccess {β : Type} {outcome : Except EventError β} {detail : String}
    {f : β → Interaction (Except EventError α)} (h : outcome = .error (.validation detail)) :
    IsRejected (onSuccess outcome f) := by
  refine ⟨detail, fun script ↦ ?_⟩
  rw [h]
  rfl

/-- The rules turn an input down with an error of the input. -/
theorem exists_detail_of_check {faults : List Validation.Fault} (h : faults ≠ []) :
    ∃ detail, Validation.check faults = .error (.validation detail) := by
  refine ⟨Validation.report faults, if_neg ?_⟩
  rwa [List.isEmpty_iff]

theorem isRejected_list (h : filter.LacksTenant .console) :
    IsRejected (list settings filter .console) :=
  ⟨_, fun _ ↦ run_list_of_isRefused (.inl ⟨h, rfl⟩)⟩

/-- An operation that is done after one call makes this call, whatever comes of it. -/
theorem calls_run_of_done {c : StoreCall} {next : c.Answer → Interaction α}
    (h : ∀ answer, ∃ a, next answer = .done a) : ((call c next).run script).calls = [c] := by
  cases hhangs : (script.headD .empty).hangs with
  | true => rw [run, play_call_of_hangs rfl hhangs]
  | false =>
    obtain ⟨a, hdone⟩ := h ((script.headD .empty).answer c)
    rw [run, play_call_of_answered rfl hhangs, hdone]
    rfl

/-- One event is asked for whatever its tenant. -/
theorem exists_plan_run_getEvent (settings : PageSettings) (tenantId : String) (id : Uuid) :
    ∃ plan, StartsRequiring plan.pipeline "tenant_id" tenantId ∧
      ∀ script, ((getEvent settings tenantId id).run script).calls = [.fetchPage plan] := by
  have hplan : Plan.ofFilter (eventFilter tenantId id) .console settings =
      .ok (Plan.ofCursor (eventFilter tenantId id) .console settings.defaultRadius none) := rfl
  refine ⟨_, (Plan.startsRequiring_ofFilter hplan fun cursor ↦ ?_).1, fun script ↦ ?_⟩
  · exact Selection.requires_tenantId rfl
  · exact calls_run_of_done fun _ ↦ ⟨_, rfl⟩

theorem isRejected_createEvent {draft : EventDraft} (h : draft.faults ≠ []) :
    IsRejected (createEvent tenantId actor draft now id) := by
  obtain ⟨detail, hcheck⟩ := exists_detail_of_check h
  exact isRejected_onSuccess hcheck

/-- An event that breaks no rule is stored whatever its tenant. -/
theorem calls_run_createEvent {draft : EventDraft} (h : draft.faults = []) :
    ((createEvent tenantId actor draft now id).run script).calls =
      [.insertEvent (draft.toEvent tenantId actor now id)] := by
  rw [createEvent, Validation.check_eq_ok_iff.2 h]
  exact calls_run_of_done fun _ ↦ ⟨_, rfl⟩

theorem isRejected_createSession {draft : SessionDraft} (h : ¬draft.IsValid) :
    IsRejected (createSession tenantId eventId draft now id) := by
  have hrejected : ∃ detail, checkSession draft = .error (.validation detail) := by
    by_cases hfaults : draft.faults = []
    · have hcheck := Validation.check_eq_ok_iff.2 hfaults
      have hfields := SessionDraft.check_eq_ok_iff.1 hcheck
      have horder : draft.endTime ≤ draft.startTime := by
        by_contra hlt
        exact h ⟨hfields.1, hfields.2, not_le.1 hlt⟩
      refine ⟨"start_time must be before end_time", ?_⟩
      rw [checkSession, hcheck]
      exact if_pos horder
    · obtain ⟨detail, hcheck⟩ := exists_detail_of_check hfaults
      refine ⟨detail, ?_⟩
      rw [checkSession, hcheck]
      rfl
  obtain ⟨detail, hcheck⟩ := hrejected
  exact isRejected_onSuccess hcheck

/-- The event of a session that keeps the rules is looked for whatever the tenant. -/
theorem head?_run_createSession {draft : SessionDraft} (h : draft.IsValid) :
    ((createSession tenantId eventId draft now id).run script).calls.head? =
      some (.eventExists tenantId eventId) := by
  rw [createSession, checkSession_eq_ok_iff.2 h]
  obtain ⟨calls, hcalls⟩ := exists_calls_play_call
  exact congrArg List.head? hcalls

/-- A blank tenant is turned down by a listing alone.  To show an event is never turned down, and to
create an event or a session exactly when its draft breaks a rule; what the store is asked then, it
is asked for the blank tenant. -/
theorem isRejected_of_isBlankText {tenantId : String} (hblank : Text.isBlankText tenantId = true)
    (settings : PageSettings) :
    (∀ filter : EventFilter, filter.tenantId = some tenantId →
      IsRejected (list settings filter .console)) ∧
    (∀ id, ∃ plan, StartsRequiring plan.pipeline "tenant_id" tenantId ∧
      ∀ script, ((getEvent settings tenantId id).run script).calls = [.fetchPage plan]) ∧
    (∀ actor (draft : EventDraft) now id,
      (draft.faults ≠ [] → IsRejected (createEvent tenantId actor draft now id)) ∧
      (draft.faults = [] → ∀ script,
        ((createEvent tenantId actor draft now id).run script).calls =
          [.insertEvent (draft.toEvent tenantId actor now id)])) ∧
    ∀ eventId (draft : SessionDraft) now id,
      (¬draft.IsValid → IsRejected (createSession tenantId eventId draft now id)) ∧
      (draft.IsValid → ∀ script,
        ((createSession tenantId eventId draft now id).run script).calls.head? =
          some (.eventExists tenantId eventId)) := by
  refine ⟨fun filter htenant ↦ ?_, exists_plan_run_getEvent settings tenantId, ?_, ?_⟩
  · apply isRejected_list
    refine ⟨rfl, fun t ht ↦ ?_⟩
    obtain rfl : tenantId = t := Option.some.inj (htenant.symm.trans ht)
    exact hblank
  · intro actor draft now id
    exact ⟨isRejected_createEvent, fun hkept _ ↦ calls_run_createEvent hkept⟩
  · intro eventId draft now id
    exact ⟨isRejected_createSession, fun hvalid _ ↦ head?_run_createSession hvalid⟩

/-- A request for an event of which only the title is given. -/
def draftTitled (title : String) : EventDraft := { (default : EventDraft) with title }

theorem isRejected_of_isBlankText_space :
    Text.isBlankText " " = true ∧ (EventFilter.forTenant " ").tenantId = some " " ∧
      (draftTitled "a").faults = [] ∧
      IsRejected (list .standard (.forTenant " ") .console) ∧
      ((createEvent " " none (draftTitled "a") .epoch .nil).run []).calls =
        [.insertEvent ((draftTitled "a").toEvent " " none .epoch .nil)] := by
  have hblank : Text.isBlankText " " = true := by decide
  have hkept : (draftTitled "a").faults = [] := by decide
  obtain ⟨hlist, -, hcreate, -⟩ := isRejected_of_isBlankText hblank .standard
  obtain ⟨-, hstored⟩ := hcreate none (draftTitled "a") .epoch .nil
  exact ⟨hblank, rfl, hkept, hlist _ rfl, hstored hkept []⟩

/-- An event and a session are stored for a tenant without a name, and an event is looked up for
one. -/
theorem stored_for_space :
    let found : ScriptedReply := { ScriptedReply.empty with found := true }
    Text.isBlankText " " = true ∧
      (∃ event, (createEvent " " none (draftTitled "a") .epoch .nil).run [] =
        ⟨[.insertEvent event], .finished (.ok event)⟩ ∧ event.tenantId = " ") ∧
      (∃ session,
        (createSession " " .nil (draftBetween (0, 0) (3600, 0)) .epoch .nil).run [found] =
          ⟨[.eventExists " " .nil, .insertSession session], .finished (.ok session)⟩) ∧
      ∃ plan, StartsRequiring plan.pipeline "tenant_id" " " ∧
        (getEvent .standard " " .nil).run [] =
          ⟨[.fetchPage plan], .finished (.error (.notFound .nil))⟩ := by
  intro found
  have hplan : StartsRequiring (Plan.ofCursor (eventFilter " " .nil) .console none
      none).pipeline "tenant_id" " " := ⟨_, _, rfl, rfl⟩
  exact ⟨by decide, ⟨(draftTitled "a").toEvent " " none .epoch .nil, rfl, rfl⟩, ⟨_, rfl⟩, _, hplan,
    rfl⟩

end EventCatalog.Service
