import EventCatalog.Proofs.Except
import EventCatalog.Proofs.Plan.Compilation
import EventCatalog.Proofs.Query.Parameters

/-!
# Precedence among paging inputs

A page number takes the place of an offset and of a token, a token that of an offset, and
`page_size` that of `limit`.  What is passed over decides nothing about the plan, and is not even
looked at: a malformed token next to a page number is no error.
-/

namespace EventCatalog

namespace Plan

variable {f : EventFilter} {audience : Audience} {settings : PageSettings} {plan : Plan}

/-- The cursor of a filter is that of its token, and there is none without a token. -/
theorem isSome_of_cursorOf {cursor : Option Cursor} (h : cursorOf f = .ok cursor) :
    cursor.isSome = f.isCursorMode := by
  rw [cursorOf] at h
  rw [EventFilter.isCursorMode]
  cases htoken : f.pageToken with
  | none =>
    rw [htoken] at h
    cases h
    rfl
  | some token =>
    rw [htoken] at h
    dsimp only at h
    split at h
    · cases h
      rfl
    · cases h

/-- A plan follows a token exactly when its filter has one. -/
theorem isCursorMode_ofFilter (h : ofFilter f audience settings = .ok plan) :
    plan.isCursorMode = f.isCursorMode := by
  obtain ⟨cursor, hcursor, rfl⟩ := exists_cursor_of_ofFilter f audience settings h
  exact isSome_of_cursorOf hcursor

/-- Next to a token an offset decides nothing. -/
theorem ofFilter_offset (h : f.isCursorMode = true) (offset : Nat) :
    ofFilter { f with offset } audience settings = ofFilter f audience settings := by
  have hsame : cursorOf { f with offset } = cursorOf f := rfl
  rw [ofFilter, ofFilter, hsame]
  cases hcursor : cursorOf f with
  | error e => rfl
  | ok cursor =>
    have hsome := isSome_of_cursorOf hcursor
    rw [h] at hsome
    obtain ⟨c, rfl⟩ := Option.isSome_iff_exists.1 hsome
    rfl

end Plan

namespace EventQuery

/-- The plan that a query asks for. -/
def toPlan (q : EventQuery) (audience : Audience) (settings : PageSettings) :
    Except EventError Plan := do
  Plan.ofFilter (← q.toFilter settings) audience settings

variable {q : EventQuery} {settings : PageSettings} {audience : Audience} {plan : Plan}

/-- A query asks for the plan of its filter. -/
theorem exists_of_toPlan (h : q.toPlan audience settings = .ok plan) :
    ∃ f, q.toFilter settings = .ok f ∧ Plan.ofFilter f audience settings = .ok plan :=
  bind_eq_ok_iff.1 h

/-- Queries with the same checks have the same filter if they have the same one once checked. -/
theorem toFilter_congr {q' : EventQuery} (hchecked : q'.checked = q.checked)
    (hfilter : q'.filterOf settings = q.filterOf settings) :
    q'.toFilter settings = q.toFilter settings := by
  rw [toFilter_eq_map, toFilter_eq_map, hchecked, hfilter]

/-- Next to a page number, an offset and a token decide nothing. -/
theorem toFilter_of_page {page : Nat} (hpage : q.page = some page) (offset : Option Nat)
    (pageToken : Option String) :
    { q with offset, pageToken }.toFilter settings = q.toFilter settings := by
  have hfilter : { q with offset, pageToken }.filterOf settings = q.filterOf settings := by
    funext circle window
    simp only [filterOf, start, hpage]
  exact toFilter_congr rfl hfilter

/-- Next to `page_size`, `limit` decides nothing. -/
theorem toFilter_of_pageSize {size : Nat} (hsize : q.pageSize = some size) (limit : Option Nat) :
    { q with limit }.toFilter settings = q.toFilter settings := by
  have hfirst : ∀ other : Option Nat, (some size <|> other) = some size := fun _ ↦ rfl
  have hfilter : { q with limit }.filterOf settings = q.filterOf settings := by
    funext circle window
    simp only [filterOf, start, hsize, hfirst]
  exact toFilter_congr rfl hfilter

/-- Without a page number, an offset decides on that of the filter and on nothing else. -/
theorem toFilter_offset (hpage : q.page = none) (offset : Option Nat) :
    { q with offset }.toFilter settings =
      (fun f : EventFilter ↦ { f with offset := offset.getD 0 }) <$> q.toFilter settings := by
  have hchecked : { q with offset }.checked = q.checked := rfl
  rw [toFilter_eq_map, toFilter_eq_map, hchecked]
  cases q.checked with
  | error e => rfl
  | ok parts =>
    apply congrArg Except.ok
    simp only [filterOf, start, hpage]

/-- Next to a token that is not blank, an offset decides nothing about the plan. -/
theorem toPlan_offset {token : String} (hpage : q.page = none)
    (htoken : q.pageToken = some token) (hblank : Text.isBlankText token = false)
    (offset : Option Nat) :
    { q with offset }.toPlan audience settings = q.toPlan audience settings := by
  rw [toPlan, toPlan, toFilter_offset hpage]
  cases hfilter : q.toFilter settings with
  | error e => rfl
  | ok f =>
    have hmode : f.isCursorMode = true := by
      rw [EventFilter.isCursorMode, (start_toFilter hfilter hpage).2, htoken]
      simp [nonBlank, hblank]
    exact Plan.ofFilter_offset hmode (offset.getD 0)

/-- Where several paging inputs say different things, one of them decides: a page number before a
token and an offset, a token before an offset, and `page_size` before `limit`.  The mode of paging
goes unchanged from the filter into the plan. -/
theorem toPlan_precedence (q : EventQuery) (audience : Audience) (settings : PageSettings) :
    (∀ page, q.page = some page →
      (∀ offset pageToken, { q with offset, pageToken }.toPlan audience settings =
        q.toPlan audience settings) ∧
      ∀ plan, q.toPlan audience settings = .ok plan → plan.isCursorMode = false) ∧
    (∀ token, q.page = none → q.pageToken = some token → Text.isBlankText token = false →
      (∀ offset, { q with offset }.toPlan audience settings = q.toPlan audience settings) ∧
      ∀ plan, q.toPlan audience settings = .ok plan → plan.isCursorMode = true) ∧
    (∀ size, q.pageSize = some size →
      ∀ limit, { q with limit }.toPlan audience settings = q.toPlan audience settings) ∧
    ∀ f plan, q.toFilter settings = .ok f → Plan.ofFilter f audience settings = .ok plan →
      plan.isCursorMode = f.isCursorMode := by
  refine ⟨fun page hpage ↦ ⟨fun offset pageToken ↦ ?_, fun plan hplan ↦ ?_⟩,
    fun token hpage htoken hblank ↦ ⟨fun offset ↦ ?_, fun plan hplan ↦ ?_⟩,
    fun size hsize limit ↦ ?_, fun f plan _ hplan ↦ Plan.isCursorMode_ofFilter hplan⟩
  · rw [toPlan, toPlan, toFilter_of_page hpage]
  · obtain ⟨f, hfilter, hf⟩ := exists_of_toPlan hplan
    rw [Plan.isCursorMode_ofFilter hf, EventFilter.isCursorMode,
      (start_toFilter_of_page hfilter hpage).2]
    rfl
  · exact toPlan_offset hpage htoken hblank offset
  · obtain ⟨f, hfilter, hf⟩ := exists_of_toPlan hplan
    rw [Plan.isCursorMode_ofFilter hf, EventFilter.isCursorMode,
      (start_toFilter hfilter hpage).2, htoken]
    simp [nonBlank, hblank]
  · rw [toPlan, toPlan, toFilter_of_pageSize hsize]

/-- A query for the second page, of the usual size. -/
def numbered : EventQuery :=
  { (default : EventQuery) with page := some 2, pageSize := some 0 }

/-- A query with the token of an empty record. -/
def followed : EventQuery := { (default : EventQuery) with pageToken := some "e30=" }

/-- A token that is malformed is passed over next to a page number, where alone it is an error. -/
theorem toPlan_precedence_malformed :
    (∃ plan, { numbered with offset := some 7, pageToken := some "?" }.toPlan .everyone .standard =
        .ok plan ∧
      { numbered with limit := some 5 }.toPlan .everyone .standard = .ok plan ∧
      plan.isCursorMode = false) ∧
    (∃ plan, { followed with offset := some 7 }.toPlan .everyone .standard = .ok plan ∧
      plan.isCursorMode = true) ∧
    ∃ e, { followed with pageToken := some "?" }.toPlan .everyone .standard = .error e := by
  obtain ⟨hpage, -, hsize, -⟩ := toPlan_precedence numbered .everyone .standard
  obtain ⟨-, htoken, -, -⟩ := toPlan_precedence followed .everyone .standard
  obtain ⟨plan, hplan⟩ : ∃ plan, numbered.toPlan .everyone .standard = .ok plan := ⟨_, rfl⟩
  obtain ⟨behind, hbehind⟩ : ∃ plan, followed.toPlan .everyone .standard = .ok plan := ⟨_, rfl⟩
  obtain ⟨hoverridden, hoffset⟩ := hpage 2 rfl
  obtain ⟨hignored, hcursor⟩ := htoken "e30=" rfl rfl (by decide)
  refine ⟨⟨plan, ?_, ?_, hoffset plan hplan⟩, ⟨behind, ?_, hcursor behind hbehind⟩, _, rfl⟩
  · rw [hoverridden, hplan]
  · rw [hsize 0 rfl, hplan]
  · rw [hignored, hbehind]

end EventQuery

end EventCatalog
