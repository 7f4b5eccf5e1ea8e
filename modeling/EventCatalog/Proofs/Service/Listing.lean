import EventCatalog.Proofs.Service
import EventCatalog.Proofs.Store.Run

/-!
# Runs of listings

A listing is refused before the store is called, when it names no tenant where one is needed or when
its token cannot be read.  Otherwise the store is asked for the rows of its plan and, when these
arrive and an offset is followed, for their number.  Only the rows can fail it: of the number, the
page says what there is to say.
-/

namespace EventCatalog

/-- Whether the rows of a page arrive: its reply neither fails nor stays away. -/
def ScriptedReply.Delivers (r : ScriptedReply) : Prop := r.hangs = false ∧ r.error = none

namespace EventFilter

/-- Whether a filter names no tenant though the listing is one of a tenant. -/
def LacksTenant (f : EventFilter) (audience : Audience) : Prop :=
  audience = .console ∧ ∀ t ∈ f.tenantId, Text.isBlankText t = true

/-- The error with which a filter is refused.  The tenant is looked at first, then the token. -/
def IsRefused (f : EventFilter) (audience : Audience) (e : EventError) : Prop :=
  (f.LacksTenant audience ∧ e = .validation "tenant id is required") ∨
    ¬f.LacksTenant audience ∧ ∃ token ∈ f.pageToken, ∃ fault, Cursor.decode token = .error fault ∧
      e = .ofCursorFault fault

theorem IsRefused.ne_cancelled {f : EventFilter} {audience : Audience} {e : EventError}
    (h : f.IsRefused audience e) : e ≠ .cancelled := by
  obtain ⟨-, rfl⟩ | ⟨-, token, -, fault, -, rfl⟩ := h
  · exact EventError.noConfusion
  · exact EventError.noConfusion

end EventFilter

namespace Service

open ScriptedReply

variable {settings : PageSettings} {filter : EventFilter} {audience : Audience} {plan : Plan}
  {script : List ScriptedReply}

theorem checkTenant_of_lacksTenant (h : filter.LacksTenant audience) :
    checkTenant filter audience = .error (.validation "tenant id is required") := by
  obtain ⟨rfl, hblank⟩ := h
  have hnamed : filter.tenantId.any (!Text.isBlankText ·) = false := by
    cases htenant : filter.tenantId with
    | none => rfl
    | some t => simp [hblank t htenant]
  simp only [checkTenant, hnamed, Bool.not_false, decide_true, Bool.and_self, if_true]

theorem checkTenant_of_not_lacksTenant (h : ¬filter.LacksTenant audience) :
    checkTenant filter audience = .ok () := by
  refine if_neg fun hrefused ↦ h ?_
  obtain ⟨haudience, hnamed⟩ := Bool.and_eq_true_iff.1 hrefused
  refine ⟨of_decide_eq_true haudience, fun t htenant ↦ ?_⟩
  rw [Option.mem_def.1 htenant] at hnamed
  simpa using hnamed

theorem ofFilter_eq_error_iff {e : EventError} :
    Plan.ofFilter filter audience settings = .error e ↔
      ∃ token ∈ filter.pageToken, ∃ fault, Cursor.decode token = .error fault ∧
        e = .ofCursorFault fault := by
  rw [Plan.ofFilter, bind_eq_error_iff, Plan.cursorOf]
  cases filter.pageToken with
  | none => simp [pure, Except.pure]
  | some token => cases hcursor : Cursor.decode token <;> simp [pure, Except.pure, hcursor, eq_comm]

/-- The checks in front of a listing fail with the error of its refusal. -/
theorem checks_eq_error_iff {e : EventError} :
    (do
      checkTenant filter audience
      Plan.ofFilter filter audience settings) = .error e ↔ filter.IsRefused audience e := by
  rw [bind_eq_error_iff, EventFilter.IsRefused]
  by_cases h : filter.LacksTenant audience
  · simp [checkTenant_of_lacksTenant h, h, eq_comm]
  · simp [checkTenant_of_not_lacksTenant h, h, ofFilter_eq_error_iff]

theorem checks_eq_ok_of_not_isRefused (settings : PageSettings)
    (h : ∀ e, ¬filter.IsRefused audience e) :
    ∃ plan, Plan.ofFilter filter audience settings = .ok plan ∧ (do
      checkTenant filter audience
      Plan.ofFilter filter audience settings) = .ok plan := by
  cases hchecks : (do
      checkTenant filter audience
      Plan.ofFilter filter audience settings) with
  | error e => exact absurd (checks_eq_error_iff.1 hchecks) (h e)
  | ok plan =>
    obtain ⟨_, -, hplan⟩ := bind_eq_ok_iff.1 hchecks
    exact ⟨plan, hplan, rfl⟩

open Dialogue

/-- A refused listing asks nothing. -/
theorem run_list_of_isRefused {e : EventError} (h : filter.IsRefused audience e) :
    (list settings filter audience).run script = ⟨[], .finished (.error e)⟩ := by
  rw [list, checks_eq_error_iff.2 h]
  rfl

/-- What a listing that follows an offset does once it has its rows. -/
theorem paginate_offset (hmode : plan.isCursorMode = false) (rows : List Event) :
    (do return .ok (Page.ofRows Event.position rows plan.limit (← pageMode plan)) :
      Interaction (Except EventError (Page Event))) =
      .call (.fetchCount plan) fun total ↦
        .done (.ok (Page.ofRows Event.position rows plan.limit (.offset plan.offset total))) := by
  rw [pageMode, hmode]
  rfl

section Accepted

variable (hplan : (do
    checkTenant filter audience
    Plan.ofFilter filter audience settings) = .ok plan)

include hplan

theorem list_eq_call :
    list settings filter audience = .call (.fetchPage plan) fun answer ↦
      onSuccess answer fun rows ↦ do
        return .ok (Page.ofRows Event.position rows plan.limit (← pageMode plan)) := by
  rw [list, hplan]
  rfl

/-- Rows that never arrive leave a listing without an answer. -/
theorem run_list_of_hangs (hhangs : (script.headD .empty).hangs = true) :
    (list settings filter audience).run script = ⟨[.fetchPage plan], .stuck⟩ := by
  rw [list_eq_call hplan, run, play_call_of_hangs rfl hhangs]

/-- A listing whose rows fail ends with their error. -/
theorem run_list_of_error (hhangs : (script.headD .empty).hangs = false) {e : EventError}
    (herror : (script.headD .empty).error = some e) :
    (list settings filter audience).run script = ⟨[.fetchPage plan], .finished (.error e)⟩ := by
  rw [list_eq_call hplan, run, play_call_of_answered rfl hhangs]
  simp only [answer, orError, herror]
  rfl

/-- Following a token, a listing is done with its rows. -/
theorem run_list_cursor (hpage : (script.headD .empty).Delivers) (hmode : plan.isCursorMode = true) :
    (list settings filter audience).run script = ⟨[.fetchPage plan], .finished
      (.ok (Page.ofRows Event.position (script.headD .empty).rows plan.limit .cursor))⟩ := by
  rw [list_eq_call hplan, run, play_call_of_answered rfl hpage.1]
  simp only [answer, orError, hpage.2, onSuccess, pageMode, hmode]
  rfl

/-- Following an offset, a listing asks for the number of rows once it has them. -/
theorem run_list_offset_of_hangs (hpage : (script.headD .empty).Delivers)
    (hmode : plan.isCursorMode = false) (hhangs : (script.tail.headD .empty).hangs = true) :
    (list settings filter audience).run script =
      ⟨[.fetchPage plan, .fetchCount plan], .stuck⟩ := by
  rw [list_eq_call hplan, run, play_call_of_answered rfl hpage.1]
  simp only [answer, orError, hpage.2, onSuccess]
  rw [paginate_offset hmode, play_call_of_hangs rfl hhangs]

/-- A failed count leaves a listing that follows an offset without a total. -/
theorem run_list_offset (hpage : (script.headD .empty).Delivers)
    (hmode : plan.isCursorMode = false) (hhangs : (script.tail.headD .empty).hangs = false) :
    (list settings filter audience).run script =
      ⟨[.fetchPage plan, .fetchCount plan], .finished
        (.ok (Page.ofRows Event.position (script.headD .empty).rows plan.limit
          (.offset plan.offset ((script.tail.headD .empty).answer (.fetchCount plan)))))⟩ := by
  rw [list_eq_call hplan, run, play_call_of_answered rfl hpage.1]
  simp only [answer, orError, hpage.2, onSuccess]
  rw [paginate_offset hmode, play_call_of_answered rfl hhangs]
  rfl

/-- What an accepted listing asks, and how it fails: every case of its run. -/
theorem run_list_of_plan :
    (((list settings filter audience).run script).calls = [.fetchPage plan] ↔
      plan.isCursorMode = true ∨ ¬(script.headD .empty).Delivers) ∧
    (((list settings filter audience).run script).calls = [.fetchPage plan, .fetchCount plan] ↔
      plan.isCursorMode = false ∧ (script.headD .empty).Delivers) ∧
    ∀ e, ((list settings filter audience).run script).outcome = .finished (.error e) ↔
      (script.headD .empty).hangs = false ∧ (script.headD .empty).error = some e := by
  cases hhangs : (script.headD .empty).hangs with
  | true =>
    have hpage : ¬(script.headD .empty).Delivers := fun h ↦ Bool.noConfusion (hhangs.symm.trans h.1)
    rw [run_list_of_hangs hplan hhangs]
    simp [hpage, -List.headD_eq_head?_getD]
  | false =>
    cases herror : (script.headD .empty).error with
    | some e =>
      have hpage : ¬(script.headD .empty).Delivers :=
        fun h ↦ Option.some_ne_none e (herror.symm.trans h.2)
      rw [run_list_of_error hplan hhangs herror]
      simp [hpage, -List.headD_eq_head?_getD]
    | none =>
      have hpage : (script.headD .empty).Delivers := ⟨hhangs, herror⟩
      cases hmode : plan.isCursorMode with
      | true =>
        rw [run_list_cursor hplan hpage hmode]
        simp [-List.headD_eq_head?_getD]
      | false =>
        cases hcount : (script.tail.headD .empty).hangs with
        | true =>
          rw [run_list_offset_of_hangs hplan hpage hmode hcount]
          simp [hpage, -List.headD_eq_head?_getD]
        | false =>
          rw [run_list_offset hplan hpage hmode hcount]
          simp [hpage, -List.headD_eq_head?_getD]

/-- The number of rows does not decide which of them stay on the page. -/
theorem exists_page_run_list (hpage : (script.headD .empty).Delivers)
    (hcount : (script.tail.headD .empty).hangs = false) :
    ∃ page : Page Event,
      ((list settings filter audience).run script).outcome = .finished (.ok page) ∧
        page.items =
          if plan.isCursorMode then (script.headD .empty).rows.take (max plan.limit 1)
          else (script.headD .empty).rows := by
  cases hmode : plan.isCursorMode with
  | true => exact ⟨_, congrArg _ (run_list_cursor hplan hpage hmode), rfl⟩
  | false => exact ⟨_, congrArg _ (run_list_offset hplan hpage hmode hcount), rfl⟩

end Accepted

variable (settings filter audience)

/-- A listing that is refused asks nothing and ends with its refusal.  Any other one asks for the
rows of its plan, and asks for their number exactly if the rows arrive and an offset is followed.
It fails with the error of the rows alone, and whatever comes of the number, a page has the same
items. -/
theorem run_list_calls :
    (∀ e, filter.IsRefused audience e → ∀ script,
      (list settings filter audience).run script = ⟨[], .finished (.error e)⟩) ∧
    ((∀ e, ¬filter.IsRefused audience e) →
      ∃ plan, Plan.ofFilter filter audience settings = .ok plan ∧
        (∀ script,
          (((list settings filter audience).run script).calls = [.fetchPage plan] ↔
            plan.isCursorMode = true ∨ ¬(script.headD .empty).Delivers) ∧
          (((list settings filter audience).run script).calls =
              [.fetchPage plan, .fetchCount plan] ↔
            plan.isCursorMode = false ∧ (script.headD .empty).Delivers) ∧
          ∀ e, ((list settings filter audience).run script).outcome = .finished (.error e) ↔
            (script.headD .empty).hangs = false ∧ (script.headD .empty).error = some e) ∧
        ∀ script other, script.headD .empty = other.headD .empty →
          (script.headD .empty).Delivers → (script.tail.headD .empty).hangs = false →
            (other.tail.headD .empty).hangs = false →
              ∃ page otherPage : Page Event,
                ((list settings filter audience).run script).outcome = .finished (.ok page) ∧
                ((list settings filter audience).run other).outcome =
                  .finished (.ok otherPage) ∧
                page.items = otherPage.items) := by
  refine ⟨fun e he script ↦ run_list_of_isRefused he, fun haccepted ↦ ?_⟩
  obtain ⟨plan, hplan, hchecks⟩ := checks_eq_ok_of_not_isRefused settings haccepted
  refine ⟨plan, hplan, fun script ↦ ?_, fun script other hsame hpage hcount hother ↦ ?_⟩
  · exact run_list_of_plan hchecks
  · obtain ⟨page, houtcome, hitems⟩ := exists_page_run_list hchecks hpage hcount
    obtain ⟨otherPage, hotherOutcome, hotherItems⟩ :=
      exists_page_run_list hchecks (hsame ▸ hpage) hother
    exact ⟨page, otherPage, houtcome, hotherOutcome, by rw [hitems, hotherItems, hsame]⟩

/-- With a count that fails, a tenant's listing has the items that it has with one that succeeds. -/
theorem run_list_calls_uncounted :
    ∃ page otherPage : Page Event,
      ((list .standard (.forTenant "tenant") .console).run
          [{ empty with rows := [default] }, { empty with count := some 1 }]).outcome =
        .finished (.ok page) ∧
      ((list .standard (.forTenant "tenant") .console).run
          [{ empty with rows := [default] },
            { empty with error := some (.database "timeout") }]).outcome =
        .finished (.ok otherPage) ∧
      page.items = otherPage.items := by
  have haccepted : ∀ e, ¬(EventFilter.forTenant "tenant").IsRefused .console e := by
    rintro e (⟨⟨-, hblank⟩, -⟩ | ⟨-, token, htoken, -⟩)
    · exact absurd (hblank "tenant" rfl) (by decide)
    · cases htoken
  obtain ⟨plan, -, -, hpages⟩ :=
    (run_list_calls .standard (.forTenant "tenant") .console).2 haccepted
  exact hpages _ _ rfl ⟨rfl, rfl⟩ rfl rfl

end Service

end EventCatalog
