import EventCatalog.Proofs.Except
import EventCatalog.Query.Basic

/-!
# The token among the parameters

Each parameter of a listing sets its own field, so reading the others commutes with a change to that
field.  The token of a query string may therefore stand anywhere among the other parameters, and it
changes nothing but the token of the query and, without a page number, of its filter.
-/

namespace EventCatalog.EventQuery

/-- The query that follows a token. -/
def follow (token : String) (q : EventQuery) : EventQuery := { q with pageToken := some token }

/-- The query without its page number. -/
def unpaged (q : EventQuery) : EventQuery := { q with page := none }

variable {q : EventQuery} {p : Parameter} {change : EventQuery → EventQuery}
  {token name value : String} {seen : List String} {pairs front back : List (String × String)}

section Parameter

/-- Whether reading a parameter commutes with a change. -/
def Parameter.Commutes (p : Parameter) (change : EventQuery → EventQuery) : Prop :=
  ∀ q s, p.ofText (change q) s = (p.ofText q s).map change

theorem Parameter.Commutes.of {α : Type} {text : String → Option α} {json : Json.Decoder α}
    {set : EventQuery → Option α → EventQuery} (h : ∀ q a, set (change q) a = change (set q a)) :
    (Parameter.of name text json set).Commutes change := by
  intro q s
  calc (Parameter.of name text json set).ofText (change q) s
      = (text s).map (change ∘ fun a ↦ set q (some a)) := by
        simp only [Parameter.of, h, Function.comp_def]
    _ = ((Parameter.of name text json set).ofText q s).map change := (Option.map_map ..).symm

theorem commutes_follow :
    ∀ p ∈ parameters, p.name ≠ "page_token" → p.Commutes (follow token) := by
  simp only [parameters, List.forall_mem_cons]
  exact ⟨fun _ ↦ .of fun _ _ ↦ rfl, fun _ ↦ .of fun _ _ ↦ rfl, fun _ ↦ .of fun _ _ ↦ rfl,
    fun _ ↦ .of fun _ _ ↦ rfl, fun _ ↦ .of fun _ _ ↦ rfl, fun _ ↦ .of fun _ _ ↦ rfl,
    fun _ ↦ .of fun _ _ ↦ rfl, fun _ ↦ .of fun _ _ ↦ rfl, fun _ ↦ .of fun _ _ ↦ rfl,
    fun _ ↦ .of fun _ _ ↦ rfl, fun _ ↦ .of fun _ _ ↦ rfl, fun _ ↦ .of fun _ _ ↦ rfl,
    fun _ ↦ .of fun _ _ ↦ rfl, fun _ ↦ .of fun _ _ ↦ rfl, fun _ ↦ .of fun _ _ ↦ rfl,
    fun hne ↦ absurd rfl hne, List.forall_mem_nil _⟩

theorem commutes_unpaged : ∀ p ∈ parameters, p.name ≠ "page" → p.Commutes unpaged := by
  simp only [parameters, List.forall_mem_cons]
  exact ⟨fun _ ↦ .of fun _ _ ↦ rfl, fun _ ↦ .of fun _ _ ↦ rfl, fun _ ↦ .of fun _ _ ↦ rfl,
    fun _ ↦ .of fun _ _ ↦ rfl, fun _ ↦ .of fun _ _ ↦ rfl, fun _ ↦ .of fun _ _ ↦ rfl,
    fun _ ↦ .of fun _ _ ↦ rfl, fun _ ↦ .of fun _ _ ↦ rfl, fun _ ↦ .of fun _ _ ↦ rfl,
    fun _ ↦ .of fun _ _ ↦ rfl, fun _ ↦ .of fun _ _ ↦ rfl, fun _ ↦ .of fun _ _ ↦ rfl,
    fun _ ↦ .of fun _ _ ↦ rfl, fun hne ↦ absurd rfl hne, fun _ ↦ .of fun _ _ ↦ rfl,
    fun _ ↦ .of fun _ _ ↦ rfl, List.forall_mem_nil _⟩

theorem mem_of_find? (h : parameters.find? (·.name = name) = some p) :
    p ∈ parameters ∧ p.name = name := by
  have hname := List.find?_some h
  exact ⟨List.mem_of_find?_eq_some h, of_decide_eq_true hname⟩

end Parameter

section Pairs

theorem ofPairs_cons_of_unknown (h : parameters.find? (·.name = name) = none) :
    ofPairs seen q ((name, value) :: pairs) = ofPairs seen q pairs := by
  rw [ofPairs, h]

theorem ofPairs_cons_of_known (h : parameters.find? (·.name = name) = some p) :
    ofPairs seen q ((name, value) :: pairs) =
      if seen.contains name then none
      else (p.ofText q value).bind fun q ↦ ofPairs (name :: seen) q pairs := by
  rw [ofPairs, h]

/-- Reading pairs of other names commutes with what the parameters of these names commute with, also
when the left out name was read before. -/
theorem ofPairs_change {seen' : List String} {own : String}
    (hchange : ∀ p ∈ parameters, p.name ≠ own → p.Commutes change)
    (hpairs : ∀ pair ∈ pairs, pair.1 ≠ own)
    (hseen : ∀ name, name ≠ own → seen'.contains name = seen.contains name) :
    ofPairs seen' (change q) pairs = (ofPairs seen q pairs).map change := by
  induction pairs generalizing q seen seen' with
  | nil => rfl
  | cons pair pairs ih =>
    obtain ⟨name, value⟩ := pair
    obtain ⟨hname, hrest⟩ := List.forall_mem_cons.1 hpairs
    cases hfind : parameters.find? (·.name = name) with
    | none => rw [ofPairs_cons_of_unknown hfind, ofPairs_cons_of_unknown hfind, ih hrest hseen]
    | some p =>
      obtain ⟨hmem, rfl⟩ := mem_of_find? hfind
      rw [ofPairs_cons_of_known hfind, ofPairs_cons_of_known hfind, hseen _ hname,
        hchange p hmem hname]
      cases seen.contains p.name with
      | true => rfl
      | false =>
        cases p.ofText q value with
        | none => rfl
        | some q' =>
          apply ih hrest
          intro other hother
          rw [List.contains_cons, List.contains_cons, hseen other hother]

/-- The token may stand anywhere among the other pairs. -/
theorem ofPairs_insert (hfront : ∀ pair ∈ front, pair.1 ≠ "page_token")
    (hback : ∀ pair ∈ back, pair.1 ≠ "page_token") (hseen : seen.contains "page_token" = false) :
    ofPairs seen q (front ++ ("page_token", token) :: back) =
      (ofPairs seen q (front ++ back)).map (follow token) := by
  induction front generalizing q seen with
  | nil =>
    have hfind : parameters.find? (·.name = "page_token") =
        some (.text "page_token" fun q pageToken ↦ { q with pageToken }) := rfl
    rw [List.nil_append, List.nil_append, ofPairs_cons_of_known hfind, hseen]
    apply ofPairs_change commutes_follow hback
    intro other hother
    rw [List.contains_cons, beq_false_of_ne hother, Bool.false_or]
  | cons pair front ih =>
    obtain ⟨name, value⟩ := pair
    obtain ⟨hname, hrest⟩ := List.forall_mem_cons.1 hfront
    rw [List.cons_append, List.cons_append]
    cases hfind : parameters.find? (·.name = name) with
    | none => rw [ofPairs_cons_of_unknown hfind, ofPairs_cons_of_unknown hfind, ih hrest hseen]
    | some p =>
      rw [ofPairs_cons_of_known hfind, ofPairs_cons_of_known hfind]
      cases seen.contains name with
      | true => rfl
      | false =>
        cases p.ofText q value with
        | none => rfl
        | some q' =>
          apply ih hrest
          rw [List.contains_cons, beq_false_of_ne hname.symm, Bool.false_or, hseen]

/-- The only token among some pairs is followed, and the other pairs are read without it. -/
theorem ofPairs_of_only (hmem : ("page_token", token) ∈ pairs)
    (honly : (pairs.filter (·.1 = "page_token")).length = 1) :
    ofPairs [] q pairs =
      (ofPairs [] q (pairs.filter (·.1 ≠ "page_token"))).map (follow token) := by
  obtain ⟨front, back, rfl⟩ := List.append_of_mem hmem
  have hnone : (front.filter (·.1 = "page_token")).length +
      (back.filter (·.1 = "page_token")).length = 0 := by
    rw [List.filter_append, List.filter_cons_of_pos (by simp), List.length_append,
      List.length_cons] at honly
    omega
  have hother : ∀ {part : List (String × String)},
      (part.filter (·.1 = "page_token")).length = 0 → ∀ pair ∈ part, pair.1 ≠ "page_token" := by
    intro part hpart pair hpair hname
    have hfound := List.filter_eq_nil_iff.1 (List.length_eq_zero_iff.1 hpart) pair hpair
    exact hfound (decide_eq_true hname)
  have hkept : ∀ {part : List (String × String)},
      (∀ pair ∈ part, pair.1 ≠ "page_token") → part.filter (·.1 ≠ "page_token") = part := by
    intro part hpart
    apply List.filter_eq_self.2
    intro pair hpair
    exact decide_eq_true (hpart pair hpair)
  have hfront := hother (Nat.eq_zero_of_add_eq_zero_right hnone)
  have hback := hother (Nat.eq_zero_of_add_eq_zero_left hnone)
  rw [List.filter_append, List.filter_cons_of_neg (by simp), hkept hfront, hkept hback]
  exact ofPairs_insert hfront hback rfl

/-- Without a page number among the pairs none is asked for. -/
theorem page_of_ofPairs (hpairs : ∀ pair ∈ pairs, pair.1 ≠ "page")
    (h : ofPairs [] default pairs = some q) : q.page = none := by
  have hdefault : unpaged default = default := rfl
  have hsame : ofPairs [] (unpaged default) pairs = (ofPairs [] default pairs).map unpaged :=
    ofPairs_change commutes_unpaged hpairs fun _ _ ↦ rfl
  rw [hdefault, h] at hsame
  have hq : q = q.unpaged := Option.some.inj hsame
  exact congrArg page hq

end Pairs

section Filter

/-- The circle and the window of a query that breaks no rule. -/
def checked (q : EventQuery) : Except EventError (Option Circle × Option SessionWindow) := do
  Validation.check q.faults
  let circle ← q.circle
  let sessionWindow ← SessionWindow.ofBounds q.sessionStartFrom q.sessionStartTo
  return (circle, sessionWindow)

/-- The filter of a query with a circle and a window. -/
def filterOf (q : EventQuery) (settings : PageSettings) (circle : Option Circle)
    (sessionWindow : Option SessionWindow) : EventFilter where
  tenantId := nonBlank q.tenantId
  eventId := none
  status := q.status
  visibility := q.visibility
  search := (nonBlank q.search).map Text.trim
  circle
  sessionWindow
  sortBy := q.sortBy.getD .createdAt
  sortOrder := q.sortOrder.getD .descending
  limit := settings.pageSize (q.pageSize <|> q.limit)
  offset := (q.start (settings.pageSize (q.pageSize <|> q.limit))).1
  pageToken := (q.start (settings.pageSize (q.pageSize <|> q.limit))).2

/-- All checks of a query come before its filter. -/
theorem toFilter_eq_map (q : EventQuery) (settings : PageSettings) :
    q.toFilter settings = (fun parts ↦ q.filterOf settings parts.1 parts.2) <$> q.checked := by
  rw [toFilter, checked]
  cases Validation.check q.faults with
  | error e => rfl
  | ok _ =>
    cases q.circle with
    | error e => rfl
    | ok circle => cases SessionWindow.ofBounds q.sessionStartFrom q.sessionStartTo <;> rfl

/-- What an accepted query asks for. -/
theorem exists_of_toFilter {q : EventQuery} {settings : PageSettings} {f : EventFilter}
    (h : q.toFilter settings = .ok f) :
    ∃ circle window, Validation.check q.faults = .ok () ∧ q.circle = .ok circle ∧
      SessionWindow.ofBounds q.sessionStartFrom q.sessionStartTo = .ok window ∧
      f = q.filterOf settings circle window := by
  rw [toFilter] at h
  obtain ⟨_, hcheck, h⟩ := bind_eq_ok_iff.1 h
  obtain ⟨circle, hcircle, h⟩ := bind_eq_ok_iff.1 h
  obtain ⟨window, hwindow, h⟩ := bind_eq_ok_iff.1 h
  exact ⟨circle, window, hcheck, hcircle, hwindow, (Except.ok.inj h).symm⟩

theorem limit_toFilter {q : EventQuery} {settings : PageSettings} {f : EventFilter}
    (h : q.toFilter settings = .ok f) : f.limit = settings.pageSize (q.pageSize <|> q.limit) := by
  obtain ⟨circle, window, -, -, -, rfl⟩ := exists_of_toFilter h
  rfl

theorem limit_pos_of_toFilter {q : EventQuery} {settings : PageSettings} {f : EventFilter}
    (h : q.toFilter settings = .ok f) : 0 < f.limit := by
  rw [limit_toFilter h, PageSettings.pageSize]
  omega

/-- Without a page number, a listing starts at the offset of the query or at its token. -/
theorem start_toFilter {q : EventQuery} {settings : PageSettings} {f : EventFilter}
    (h : q.toFilter settings = .ok f) (hpage : q.page = none) :
    f.offset = q.offset.getD 0 ∧ f.pageToken = nonBlank q.pageToken := by
  obtain ⟨circle, window, -, -, -, rfl⟩ := exists_of_toFilter h
  rw [filterOf, start, hpage]
  exact ⟨rfl, rfl⟩

/-- With a page number, a listing starts at the offset of that page. -/
theorem start_toFilter_of_page {q : EventQuery} {settings : PageSettings} {f : EventFilter}
    (h : q.toFilter settings = .ok f) {page : Nat} (hpage : q.page = some page) :
    f.offset = min ((max page 1 - 1) * f.limit) Text.max64 ∧ f.pageToken = none := by
  obtain ⟨circle, window, -, -, -, rfl⟩ := exists_of_toFilter h
  rw [filterOf, start, hpage]
  exact ⟨rfl, rfl⟩

/-- Without a page number a token that is not blank goes from a query into its filter, and decides
nothing else. -/
theorem toFilter_follow {settings : PageSettings} {f : EventFilter}
    (h : q.toFilter settings = .ok f) (hpage : q.page = none)
    (htoken : Text.isBlankText token = false) :
    (q.follow token).toFilter settings = .ok { f with pageToken := some token } := by
  obtain ⟨circle, window, hcheck, hcircle, hwindow, rfl⟩ := exists_of_toFilter h
  have hfaults : (q.follow token).faults = q.faults := rfl
  have hsame : (q.follow token).circle = q.circle := rfl
  have hbounds : SessionWindow.ofBounds (q.follow token).sessionStartFrom
      (q.follow token).sessionStartTo = .ok window := hwindow
  have hstart : ∀ limit, (q.follow token).start limit = ((q.start limit).1, some token) := by
    intro limit
    simp [start, follow, hpage, nonBlank, htoken]
  rw [toFilter, hfaults, hcheck, hsame, hcircle, hbounds]
  simp only [hstart]
  rfl

end Filter

end EventCatalog.EventQuery
