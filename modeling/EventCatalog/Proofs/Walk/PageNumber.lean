import EventCatalog.Proofs.Query.Parameters
import EventCatalog.Proofs.Walk.Token

/-!
# Walks along page numbers

A query with a page number asks for the offset in front of that page.  As long as the numbers stay
within their types, each page tells its own place among all pages, and the pages from the first to
the last one hold the listing.
-/

namespace EventCatalog

namespace EventQuery

/-- A page number replaces the offset and the token of a query, and nothing else. -/
theorem toFilter_page {q : EventQuery} {settings : PageSettings} {f : EventFilter}
    (h : q.toFilter settings = .ok f) (page : Nat) :
    { q with page := some page }.toFilter settings =
      .ok { f with
        offset := min ((max page 1 - 1) * f.limit) Text.max64
        pageToken := none } := by
  obtain ⟨circle, window, hcheck, hcircle, hwindow, rfl⟩ := exists_of_toFilter h
  have hfaults : { q with page := some page }.faults = q.faults := rfl
  have hsame : { q with page := some page }.circle = q.circle := rfl
  rw [toFilter, hfaults, hcheck, hsame, hcircle, hwindow]
  rfl

end EventQuery

/-- Slices of one length, one after another, are the front of a list. -/
theorem flatMap_slices (rows : List α) (length count : Nat) :
    ((List.range count).flatMap fun k ↦ (rows.drop (k * length)).take length) =
      rows.take (count * length) := by
  induction count with
  | zero => simp
  | succ count ih =>
    rw [List.range_succ, List.flatMap_append, ih, List.flatMap_singleton, Nat.succ_mul,
      List.take_add]

/-- Pages that can all be had, taken together. -/
theorem exists_pages {serve : Nat → Except EventError (Page Event)} {slice : Nat → List Event}
    {numbers : List Nat} (h : ∀ k ∈ numbers, ∃ page, serve k = .ok page ∧ page.items = slice k) :
    ∃ pages : List (Page Event), numbers.map serve = pages.map .ok ∧
      pages.flatMap (·.items) = numbers.flatMap slice := by
  induction numbers with
  | nil => exact ⟨[], rfl, rfl⟩
  | cons k numbers ih =>
    rw [List.forall_mem_cons] at h
    obtain ⟨⟨page, hpage, hitems⟩, hlater⟩ := h
    obtain ⟨pages, hpages, hall⟩ := ih hlater
    refine ⟨page :: pages, ?_, ?_⟩
    · rw [List.map_cons, List.map_cons, hpage, hpages]
    · rw [List.flatMap_cons, List.flatMap_cons, hitems, hall]

theorem le_ceil_mul {n limit : Nat} (hlimit : 0 < limit) :
    n ≤ (n + limit - 1) / limit * limit := by
  have h := Nat.lt_div_mul_add (a := n + limit - 1) hlimit
  omega

/-- The place of a page among all pages, when its offset is that of its number. -/
theorem Page.exists_pagination_eq (position : α → Cursor) (rows : List α) {limit page : Nat}
    (hlimit : 0 < limit) (hpage : 1 ≤ page) (total : Nat) :
    ∃ token, (Page.ofRows position rows limit
        (.offset ((page - 1) * limit) (some total))).pagination =
      ⟨token, none, page * limit < total, 1 < page, some total, some (min page Text.max32),
        some (min ((total + limit - 1) / limit) Text.max32)⟩ := by
  have hplace : (page - 1) * limit / limit + 1 = page := by
    rw [Nat.mul_div_cancel _ hlimit]
    omega
  have hnext := @Pagination.current_lt_pages_iff ((page - 1) * limit) limit total hlimit
  rw [hplace] at hnext
  simp only [ofRows, Nat.max_eq_left hlimit, Pagination.ofMode, hplace, hnext]
  exact ⟨_, rfl⟩

namespace Catalog

variable {c : Catalog} {q : EventQuery} {audience : Audience} {settings : PageSettings}
  {f : EventFilter}

variable (c q audience settings) in
/-- The page of a number. -/
def numbered (page : Nat) : Except EventError (Page Event) := do
  let f ← { q with page := some page }.toFilter settings
  c.list f audience settings true

/-- A page at the offset of its number takes its slice of the listing and tells its place. -/
theorem exists_page_at (haudience : Service.checkTenant f audience = .ok ())
    (hcount : (c.listing f audience settings).length < 2 ^ 63) (hlimit : 0 < f.limit) {page : Nat}
    (hpage : 1 ≤ page) (hoffset : f.offset = (page - 1) * f.limit) (hsmall : f.offset < 2 ^ 63) :
    ∃ p token, c.serve f audience settings true none = .ok p ∧
      p.items = (((c.listing f audience settings).drop f.offset).take f.limit).map
        (c.deliver f) ∧
      p.pagination = ⟨token, none, page * f.limit < (c.listing f audience settings).length,
        1 < page, some (c.listing f audience settings).length, some (min page Text.max32),
        some (min (((c.listing f audience settings).length + f.limit - 1) / f.limit)
          Text.max32)⟩ := by
  have hlength : (c.listing f audience settings).length ≤ Bson.maxInt64 := by
    rw [Bson.maxInt64]
    omega
  have hmode : c.modeOf { f with pageToken := none } audience settings true none =
      .offset ((page - 1) * f.limit) (some (c.listing f audience settings).length) := by
    rw [← hoffset, ← show counted (c.listing f audience settings).length = _ from if_pos hlength]
    rfl
  have hlist := c.list_eq { f with pageToken := none } audience settings true haudience rfl
  have hserved : c.IsServed f audience settings := ⟨haudience, .inr hlength⟩
  have hrows := isPageOf_first hserved (Nat.le_of_lt_succ hsmall) hlist
  rw [hmode, Nat.max_eq_left hlimit] at hlist hrows
  obtain ⟨token, hplace⟩ := Page.exists_pagination_eq Event.position _ hlimit hpage
    (c.listing f audience settings).length
  refine ⟨_, token, hlist, ?_, hplace⟩
  rw [hrows.items_eq, Nat.max_eq_left hlimit]

/-- The page of a number takes its slice of the listing and tells its place. -/
theorem exists_numbered (hq : q.toFilter settings = .ok f)
    (haudience : Service.checkTenant f audience = .ok ())
    (hcount : (c.listing f audience settings).length < 2 ^ 63) {page : Nat} (hpage : 1 ≤ page)
    (hoffset : (page - 1) * f.limit < 2 ^ 63) :
    ∃ p token, c.numbered q audience settings page = .ok p ∧
      p.items = (((c.listing f audience settings).drop ((page - 1) * f.limit)).take f.limit).map
        (c.deliver f) ∧
      p.pagination = ⟨token, none, page * f.limit < (c.listing f audience settings).length,
        1 < page, some (c.listing f audience settings).length, some (min page Text.max32),
        some (min (((c.listing f audience settings).length + f.limit - 1) / f.limit)
          Text.max32)⟩ := by
  have hfilter : { q with page := some page }.toFilter settings =
      .ok { f with offset := (page - 1) * f.limit, pageToken := none } := by
    have hmax : (page - 1) * f.limit ≤ Text.max64 := by
      rw [Text.max64]
      omega
    rw [EventQuery.toFilter_page hq, Nat.max_eq_left hpage, Nat.min_eq_left hmax]
  have hserve : c.numbered q audience settings page =
      c.serve { f with offset := (page - 1) * f.limit } audience settings true none := by
    rw [numbered, hfilter]
    rfl
  have hlimit := EventQuery.limit_pos_of_toFilter hq
  rw [hserve]
  exact exists_page_at (f := { f with offset := (page - 1) * f.limit }) haudience hcount hlimit
    hpage rfl hoffset

/-- The pages from the first to the last one deliver the listing. -/
theorem exists_pages_numbered (hq : q.toFilter settings = .ok f)
    (haudience : Service.checkTenant f audience = .ok ())
    (hcount : (c.listing f audience settings).length < 2 ^ 63) {last : Nat}
    (hlast : ((c.listing f audience settings).length + f.limit - 1) / f.limit = last) :
    ∃ pages : List (Page Event),
      ((List.range last).map fun k ↦ c.numbered q audience settings (k + 1)) = pages.map .ok ∧
      pages.flatMap (·.items) = (c.listing f audience settings).map (c.deliver f) := by
  have hlimit := EventQuery.limit_pos_of_toFilter hq
  have hpage : ∀ k ∈ List.range last, ∃ p, c.numbered q audience settings (k + 1) = .ok p ∧
      p.items = (((c.listing f audience settings).map (c.deliver f)).drop (k * f.limit)).take
        f.limit := by
    intro k hk
    have hbefore : k * f.limit < 2 ^ 63 := by
      have hwithin := Nat.succ_le_of_lt (List.mem_range.1 hk)
      rw [← hlast, Nat.le_div_iff_mul_le hlimit, Nat.succ_mul] at hwithin
      omega
    obtain ⟨p, token, hserve, hitems, -⟩ := exists_numbered hq haudience hcount
      (Nat.succ_pos k) hbefore
    refine ⟨p, hserve, ?_⟩
    rw [hitems, List.map_take, List.map_drop]
    rfl
  obtain ⟨pages, hpages, hitems⟩ := exists_pages hpage
  have hall : ((c.listing f audience settings).map (c.deliver f)).length ≤ last * f.limit := by
    rw [List.length_map, ← hlast]
    exact le_ceil_mul hlimit
  refine ⟨pages, hpages, ?_⟩
  rw [hitems, flatMap_slices, List.take_of_length_le hall]

/-- Where the listing can be counted, page numbers tell where they are, and the pages from the first
to the last one deliver the listing, each event once. -/
theorem numbered_pages (c : Catalog) (q : EventQuery) (audience : Audience)
    (settings : PageSettings) (f : EventFilter) (hq : q.toFilter settings = .ok f)
    (haudience : Service.checkTenant f audience = .ok ()) (total last : Nat)
    (htotal : (c.listing f audience settings).length = total) (hcount : total < 2 ^ 63)
    (hlast : (total + f.limit - 1) / f.limit = last) (hpages : last < 2 ^ 32) :
    f.limit = settings.pageSize (q.pageSize <|> q.limit) ∧
    (∀ page, 1 ≤ page → page < 2 ^ 32 → page * f.limit < 2 ^ 63 →
      ∃ p, c.numbered q audience settings page = .ok p ∧
        p.pagination.currentPage = some page ∧ p.pagination.totalCount = some total ∧
        p.pagination.totalPages = some last ∧ p.pagination.hasPrev = decide (1 < page) ∧
        p.pagination.hasNext = decide (page * f.limit < total)) ∧
    ∃ pages : List (Page Event),
      ((List.range last).map fun k ↦ c.numbered q audience settings (k + 1)) = pages.map .ok ∧
      pages.flatMap (·.items) = (c.listing f audience settings).map (c.deliver f) := by
  subst htotal
  refine ⟨EventQuery.limit_toFilter hq, ?_, exists_pages_numbered hq haudience hcount hlast⟩
  intro page hpage hsmall hproduct
  have hoffset : (page - 1) * f.limit < 2 ^ 63 :=
    (Nat.mul_le_mul_right _ (Nat.sub_le page 1)).trans_lt hproduct
  have hcurrent : min page Text.max32 = page := by
    rw [Text.max32]
    omega
  have hall : min last Text.max32 = last := by
    rw [Text.max32]
    omega
  obtain ⟨p, token, hserve, -, hplace⟩ := exists_numbered hq haudience hcount hpage hoffset
  rw [hlast, hcurrent, hall] at hplace
  refine ⟨p, hserve, ?_⟩
  rw [hplace]
  exact ⟨rfl, rfl, rfl, rfl, rfl⟩

theorem numbered_pages_crossed :
    ∃ pages : List (Page Event),
      ((List.range 2).map fun k ↦
        crossed.numbered { (default : EventQuery) with
          tenantId := some "tenant"
          sortBy := some .title
          limit := some 1 } .console .standard (k + 1)) = pages.map .ok ∧
      (pages.flatMap (·.items)).map (·.id) = [⟨1⟩, ⟨2⟩] := by
  obtain ⟨-, -, pages, hpages, hitems⟩ := numbered_pages crossed { (default : EventQuery) with
      tenantId := some "tenant"
      sortBy := some .title
      limit := some 1 } .console .standard
    { EventFilter.forTenant "tenant" with sortBy := .title, limit := 1 } (by decide) (by decide)
    2 2 (by decide) (by decide) (by decide) (by decide)
  refine ⟨pages, hpages, ?_⟩
  rw [hitems, List.map_map]
  simp only [Function.comp_def, id_deliver]
  decide

end Catalog

end EventCatalog
