import EventCatalog.Proofs.Page
import EventCatalog.Proofs.Query.Parameters
import EventCatalog.Proofs.Service.Listing

/-!
# Listings along an offset

A query without a page number and a token starts at its offset.  Its page tells whether rows are in
front of it, and what it tells depends on whether their number arrives: with the number the offset
is rounded down to a page, and an offset within the first page then counts as the start.
-/

namespace EventCatalog

/-- Whether the number of rows arrives. -/
def ScriptedReply.counts (r : ScriptedReply) : Bool := r.error.isNone && r.count.isSome

theorem ScriptedReply.isSome_answer_fetchCount (r : ScriptedReply) (plan : Plan) :
    (r.answer (.fetchCount plan)).isSome = r.counts := by
  rw [answer, counts]
  cases r.error <;> rfl

namespace Service

variable {settings : PageSettings} {audience : Audience} {script : List ScriptedReply}

section Filter

variable (settings) {filter : EventFilter}

/-- A listing without a token follows the offset of its filter. -/
theorem checks_of_untokened (htenant : ¬filter.LacksTenant audience)
    (htoken : filter.pageToken = none) :
    (do
      checkTenant filter audience
      Plan.ofFilter filter audience settings) =
        .ok (Plan.ofCursor filter audience settings.defaultRadius none) := by
  rw [checkTenant_of_not_lacksTenant htenant, Plan.ofFilter, Plan.cursorOf, htoken]
  rfl

/-- What a listing without a token says of the rows in front of its page. -/
theorem exists_page_hasPrev (htenant : ¬filter.LacksTenant audience)
    (htoken : filter.pageToken = none) (hlimit : 0 < filter.limit)
    (hrows : (script.headD .empty).Delivers) (hcount : (script.tail.headD .empty).hangs = false) :
    ∃ page : Page Event,
      ((list settings filter audience).run script).outcome = .finished (.ok page) ∧
        page.pagination.hasPrev =
          if (script.tail.headD .empty).counts then decide (filter.limit ≤ filter.offset)
          else decide (0 < filter.offset) := by
  let plan := Plan.ofCursor filter audience settings.defaultRadius none
  let total := (script.tail.headD .empty).answer (.fetchCount plan)
  have hchecks := checks_of_untokened settings htenant htoken
  have hrun := run_list_offset hchecks hrows rfl hcount
  have hmax : max plan.limit 1 = filter.limit := by
    change max (max filter.limit 1) 1 = filter.limit
    omega
  refine ⟨_, congrArg Run.outcome hrun, ?_⟩
  calc (Page.ofRows Event.position (script.headD .empty).rows plan.limit
          (.offset plan.offset total)).pagination.hasPrev
      = if total.isSome then decide (max plan.limit 1 ≤ plan.offset)
          else decide (0 < plan.offset) := Page.hasPrev_ofRows_offset ..
    _ = if (script.tail.headD .empty).counts then decide (filter.limit ≤ filter.offset)
          else decide (0 < filter.offset) := by
      rw [hmax, ScriptedReply.isSome_answer_fetchCount]
      rfl

end Filter

section Query

variable {q : EventQuery} {f : EventFilter} {tenantId : Option String}

/-- A query that follows an offset is told of rows in front of its page from the second page on when
their number arrives, and from the second row on when it does not.  So the number decides between
the answers exactly for the other offsets within the first page. -/
theorem hasPrev_run_list (hfilter : q.toFilter settings = .ok f) (hpage : q.page = none)
    (htoken : EventQuery.nonBlank q.pageToken = none)
    (htenant : ¬{ f with tenantId }.LacksTenant audience)
    (hrows : (script.headD .empty).Delivers) (hcount : (script.tail.headD .empty).hangs = false) :
    ∃ page : Page Event,
      ((list settings { f with tenantId } audience).run script).outcome = .finished (.ok page) ∧
      (page.pagination.hasPrev =
        if (script.tail.headD .empty).counts then decide (f.limit ≤ q.offset.getD 0)
        else decide (0 < q.offset.getD 0)) ∧
      ∀ other : List ScriptedReply, other.headD .empty = script.headD .empty →
        (other.tail.headD .empty).hangs = false →
        (other.tail.headD .empty).counts ≠ (script.tail.headD .empty).counts →
        ∃ otherPage : Page Event,
          ((list settings { f with tenantId } audience).run other).outcome =
            .finished (.ok otherPage) ∧
          (otherPage.pagination.hasPrev = page.pagination.hasPrev ↔
            q.offset.getD 0 = 0 ∨ f.limit ≤ q.offset.getD 0) := by
  have hlimit : 0 < f.limit := EventQuery.limit_pos_of_toFilter hfilter
  obtain ⟨hoffset, hpageToken⟩ := EventQuery.start_toFilter hfilter hpage
  rw [htoken] at hpageToken
  rw [← hoffset]
  obtain ⟨page, houtcome, hprev⟩ :=
    exists_page_hasPrev settings htenant hpageToken hlimit hrows hcount
  refine ⟨page, houtcome, hprev, fun other hsame hotherCount hdiffer ↦ ?_⟩
  obtain ⟨otherPage, hotherOutcome, hotherPrev⟩ :=
    exists_page_hasPrev settings htenant hpageToken hlimit (hsame ▸ hrows) hotherCount
  refine ⟨otherPage, hotherOutcome, ?_⟩
  have hagree : decide (f.limit ≤ f.offset) = decide (0 < f.offset) ↔
      f.offset = 0 ∨ f.limit ≤ f.offset := by
    rw [decide_eq_decide]
    omega
  rw [hotherPrev, hprev]
  cases hcounts : (script.tail.headD .empty).counts with
  | true =>
    rw [hcounts] at hdiffer
    rw [Bool.eq_false_iff.2 hdiffer]
    exact eq_comm.trans hagree
  | false =>
    rw [hcounts] at hdiffer
    rw [Bool.ne_false_iff.1 hdiffer]
    exact hagree

/-- From the second page on, the number of rows does not matter. -/
theorem hasPrev_run_list_third :
    let q : EventQuery := { (default : EventQuery) with offset := some 2, limit := some 2 }
    let counted : List ScriptedReply := [.empty, { ScriptedReply.empty with count := some 5 }]
    let uncounted : List ScriptedReply :=
      [.empty, { ScriptedReply.empty with error := some (.database "timeout") }]
    ∃ f, q.toFilter .standard = .ok f ∧ ∃ page otherPage : Page Event,
      ((list .standard { f with tenantId := some "tenant" } .console).run counted).outcome =
        .finished (.ok page) ∧
      page.pagination.hasPrev = true ∧
      ((list .standard { f with tenantId := some "tenant" } .console).run uncounted).outcome =
        .finished (.ok otherPage) ∧
      otherPage.pagination.hasPrev = page.pagination.hasPrev := by
  intro q counted uncounted
  obtain ⟨f, hfilter⟩ : ∃ f, q.toFilter .standard = .ok f := ⟨_, rfl⟩
  have htenant : ¬{ f with tenantId := some "tenant" }.LacksTenant .console :=
    fun h ↦ absurd (h.2 "tenant" rfl) (by decide)
  have hrows : (counted.headD .empty).Delivers := ⟨rfl, rfl⟩
  obtain ⟨page, houtcome, hprev, hother⟩ := hasPrev_run_list hfilter rfl rfl htenant hrows rfl
  obtain ⟨otherPage, hotherOutcome, hagree⟩ := hother uncounted rfl rfl (by decide)
  have hsecondPage : f.limit ≤ q.offset.getD 0 := Nat.le_of_eq (EventQuery.limit_toFilter hfilter)
  refine ⟨f, hfilter, page, otherPage, houtcome, ?_, hotherOutcome, hagree.2 (.inr hsecondPage)⟩
  exact hprev.trans (decide_eq_true hsecondPage)

/-- Within the first page, a failed count brings up rows in front that the number hides. -/
theorem hasPrev_run_list_second :
    let q : EventQuery := { (default : EventQuery) with offset := some 1, limit := some 2 }
    let counted : List ScriptedReply := [.empty, { ScriptedReply.empty with count := some 1 }]
    let uncounted : List ScriptedReply :=
      [.empty, { ScriptedReply.empty with error := some (.database "timeout") }]
    ∃ f, q.toFilter .standard = .ok f ∧ ∃ page otherPage : Page Event,
      ((list .standard { f with tenantId := some "tenant" } .console).run counted).outcome =
        .finished (.ok page) ∧
      page.pagination.hasPrev = false ∧
      ((list .standard { f with tenantId := some "tenant" } .console).run uncounted).outcome =
        .finished (.ok otherPage) ∧
      otherPage.pagination.hasPrev = true :=
  ⟨_, rfl, _, _, rfl, rfl, rfl, rfl⟩

end Query

end Service

end EventCatalog
