import EventCatalog.Proofs.Walk.Step

/-!
# Walks along tokens

A client that follows the token of each page until a page has none.  Over a catalog every such walk
ends, because the identifiers on the boundaries advance.  The boundary of a token compares
identifiers only; so the walk delivers the listing exactly when, at each boundary that it meets, the
rows beyond the identifier are the rows behind the place of the row.
-/

namespace EventCatalog

/-- A walk from a token: a page that has none ends it, and the token of any other page leads on. -/
inductive TokenWalk (serve : Option String → Except EventError (Page Event)) :
    Option String → List (Page Event) → Prop where
  | last {token : Option String} {page : Page Event} (hpage : serve token = .ok page)
    (hlast : page.pagination.nextToken = none) : TokenWalk serve token [page]
  | next {token : Option String} {page : Page Event} {following : String}
    {pages : List (Page Event)} (hpage : serve token = .ok page)
    (hnext : page.pagination.nextToken = some following)
    (hpages : TokenWalk serve (some following) pages) : TokenWalk serve token (page :: pages)

/-- There is at most one walk from a token. -/
theorem TokenWalk.unique {serve : Option String → Except EventError (Page Event)}
    {token : Option String} {pages others : List (Page Event)} (h : TokenWalk serve token pages)
    (h' : TokenWalk serve token others) : others = pages := by
  induction h generalizing others with
  | last hpage hlast =>
    cases h' with
    | last hpage' _ => rw [Except.ok.inj (hpage.symm.trans hpage')]
    | next hpage' hnext' _ =>
      rw [← Except.ok.inj (hpage.symm.trans hpage'), hlast] at hnext'
      cases hnext'
  | next hpage hnext hpages ih =>
    cases h' with
    | last hpage' hlast' =>
      rw [← Except.ok.inj (hpage.symm.trans hpage'), hnext] at hlast'
      cases hlast'
    | next hpage' hnext' hpages' =>
      obtain rfl := Except.ok.inj (hpage.symm.trans hpage')
      obtain rfl := Option.some.inj (hnext.symm.trans hnext')
      rw [ih hpages']

/-- A walk starts with the page of its token. -/
theorem TokenWalk.exists_cons {serve : Option String → Except EventError (Page Event)}
    {token : Option String} {pages : List (Page Event)} (h : TokenWalk serve token pages) :
    ∃ page later, pages = page :: later ∧ serve token = .ok page := by
  cases h with
  | last hpage _ => exact ⟨_, _, rfl, hpage⟩
  | next hpage _ _ => exact ⟨_, _, rfl, hpage⟩

namespace Catalog

variable {c : Catalog} {f : EventFilter} {audience : Audience} {settings : PageSettings}
  {counts : Bool}

theorem mem_events_of_mem_listing {e : Event} (h : e ∈ c.listing f audience settings) :
    e ∈ c.events :=
  (List.mem_filter.1 ((List.mem_insertionSort _).1 h)).1

theorem nodup_listing : (c.listing f audience settings).Nodup :=
  (List.perm_insertionSort _ _).nodup_iff.2 ((List.Nodup.of_map _ c.distinct).filter _)

/-- The listing is strictly ordered by place. -/
theorem pairwise_listing :
    (c.listing f audience settings).Pairwise fun a b ↦
      f.sortOrder.lt (a.rank f.sortBy) (b.rank f.sortBy) := by
  have hle : (c.listing f audience settings).Pairwise fun a b ↦
      f.sortOrder.le (a.rank f.sortBy) (b.rank f.sortBy) := List.pairwise_insertionSort _ _
  refine (hle.and nodup_listing).imp_of_mem fun {a b} ha hb ⟨hab, hne⟩ ↦ ?_
  refine f.sortOrder.lt_of_le_of_ne hab fun heq ↦ hne ?_
  exact c.eq_of_id_eq (mem_events_of_mem_listing ha) (mem_events_of_mem_listing hb)
    (congrArg (fun r ↦ (ofLex r).2) heq)

/-- Rows in the order of the listing are determined by which ones they are. -/
theorem eq_of_mem_iff {rows others : List Event}
    (h : rows.Pairwise fun a b ↦ f.sortOrder.lt (a.rank f.sortBy) (b.rank f.sortBy))
    (h' : others.Pairwise fun a b ↦ f.sortOrder.lt (a.rank f.sortBy) (b.rank f.sortBy))
    (hmem : ∀ e, e ∈ rows ↔ e ∈ others) : rows = others := by
  have hnodup : ∀ {l : List Event}, (l.Pairwise fun a b ↦
      f.sortOrder.lt (a.rank f.sortBy) (b.rank f.sortBy)) → l.Nodup := by
    refine fun hl ↦ List.Pairwise.imp ?_ hl
    rintro a b hab rfl
    exact f.sortOrder.lt_irrefl _ hab
  exact ((List.perm_ext_iff_of_nodup (hnodup h) (hnodup h')).2 hmem).eq_of_pairwise
    (fun a b _ _ hab hba ↦ absurd hba (f.sortOrder.lt_asymm hab)) h h'

/-- Delivered events tell the events of the listing apart. -/
theorem deliver_inj {a b : Event} (ha : a ∈ c.listing f audience settings)
    (hb : b ∈ c.listing f audience settings) (h : c.deliver f a = c.deliver f b) : a = b := by
  have hid : a.id = b.id := by
    rw [← c.id_deliver f a, h, id_deliver]
  exact c.eq_of_id_eq (mem_events_of_mem_listing ha) (mem_events_of_mem_listing hb) hid

/-- Tokens tell the events of the listing apart. -/
theorem tokenOf_inj {a b : Event} (ha : a ∈ c.listing f audience settings)
    (hb : b ∈ c.listing f audience settings) (h : c.tokenOf f a = c.tokenOf f b) : a = b := by
  have hdecode := congrArg Cursor.decode h
  rw [tokenOf, tokenOf, Cursor.decode_encode, Cursor.decode_encode] at hdecode
  have hid := congrArg Cursor.lastId (Except.ok.inj hdecode)
  rw [Cursor.lastId_asPrinted, Cursor.lastId_asPrinted, lastId_position_deliver,
    lastId_position_deliver] at hid
  exact c.eq_of_id_eq (mem_events_of_mem_listing ha) (mem_events_of_mem_listing hb)
    (Option.some.inj hid)

variable (c f audience settings) in
/-- Whether the rows beyond the identifier of an event are those behind its place. -/
def IsExactBoundary (e : Event) : Prop :=
  ∀ x ∈ c.listing f audience settings,
    f.sortOrder.lt e.id x.id ↔ f.sortOrder.lt (e.rank f.sortBy) (x.rank f.sortBy)

/-- What stands behind a row of the listing. -/
theorem filter_rank_eq {before after : List Event} {e : Event}
    (h : c.listing f audience settings = before ++ e :: after) :
    ((c.listing f audience settings).filter fun x ↦
      f.sortOrder.lt (e.rank f.sortBy) (x.rank f.sortBy)) = after := by
  have hpairwise : (c.listing f audience settings).Pairwise _ := pairwise_listing
  rw [h] at hpairwise ⊢
  obtain ⟨-, hafter, hbefore⟩ := List.pairwise_append.1 hpairwise
  have hnone : ∀ x ∈ before ++ [e], ¬f.sortOrder.lt (e.rank f.sortBy) (x.rank f.sortBy) := by
    intro x hx
    rcases List.mem_append.1 hx with hx | hx
    · exact f.sortOrder.lt_asymm (hbefore x hx e List.mem_cons_self)
    · rw [List.mem_singleton.1 hx]
      exact f.sortOrder.lt_irrefl _
  have hall : ∀ x ∈ after, f.sortOrder.lt (e.rank f.sortBy) (x.rank f.sortBy) :=
    (List.pairwise_cons.1 hafter).1
  rw [List.append_cons, List.filter_append, List.filter_eq_nil_iff.2 (by simpa using hnone),
    List.filter_eq_self.2 (by simpa using hall), List.nil_append]

/-- A boundary is exact when it leaves what stands behind its row. -/
theorem isExactBoundary_iff {before after : List Event} {e : Event}
    (h : c.listing f audience settings = before ++ e :: after) :
    c.IsExactBoundary f audience settings e ↔ c.beyond f audience settings e = after := by
  rw [← filter_rank_eq h, beyond]
  constructor
  · intro hexact
    exact List.filter_congr fun x hx ↦ decide_eq_decide.2 (hexact x hx)
  · intro heq x hx
    have hmem : x ∈ ((c.listing f audience settings).filter fun x ↦ f.sortOrder.lt e.id x.id) ↔
        x ∈ ((c.listing f audience settings).filter fun x ↦
          f.sortOrder.lt (e.rank f.sortBy) (x.rank f.sortBy)) := by
      rw [heq]
    simpa only [List.mem_filter, hx, true_and, decide_eq_true_eq] using hmem

theorem mem_listing_of_eq {before after : List Event} {e : Event}
    (h : c.listing f audience settings = before ++ e :: after) :
    e ∈ c.listing f audience settings := by
  rw [h]
  exact List.mem_append_right _ List.mem_cons_self

/-- The last row of a page, and what stands around it. -/
theorem listing_eq_of_getLast? {before rest : List Event} {n : Nat} {e : Event}
    (h : c.listing f audience settings = before ++ rest) (he : (rest.take n).getLast? = some e) :
    c.listing f audience settings = (before ++ (rest.take n).dropLast) ++ e :: rest.drop n := by
  have htake : (rest.take n).dropLast ++ [e] = rest.take n :=
    List.dropLast_append_getLast? e he
  calc
    c.listing f audience settings = before ++ (rest.take n ++ rest.drop n) := by
      rw [h, List.take_append_drop]
    _ = before ++ ((rest.take n).dropLast ++ [e] ++ rest.drop n) := by
      rw [htake]
    _ = (before ++ (rest.take n).dropLast) ++ e :: rest.drop n := by
      simp only [List.append_assoc, List.cons_append, List.nil_append]

theorem mem_beyond {e x : Event} :
    x ∈ c.beyond f audience settings e ↔
      x ∈ c.listing f audience settings ∧ f.sortOrder.lt e.id x.id := by
  rw [beyond, List.mem_filter, decide_eq_true_eq]

/-- What stands beyond a later boundary stands beyond an earlier one. -/
theorem beyond_eq_of_lt {e e' : Event} (h : f.sortOrder.lt e.id e'.id) :
    c.beyond f audience settings e' =
      (c.beyond f audience settings e).filter fun x ↦ f.sortOrder.lt e'.id x.id := by
  rw [beyond, beyond, List.filter_filter]
  refine List.filter_congr fun x _ ↦ ?_
  by_cases hx : f.sortOrder.lt e'.id x.id
  · simp [hx, f.sortOrder.lt_trans h hx]
  · simp [hx]

section

variable (hserved : c.IsServed f audience settings)

include hserved

/-- The token of a page behind another token names a row beyond the earlier one. -/
theorem exists_beyond_of_nextToken {e : Event} {page : Page Event} {token : String}
    (hpage : c.serve f audience settings counts (some (c.tokenOf f e)) = .ok page)
    (hnext : page.pagination.nextToken = some token) :
    ∃ e' ∈ c.beyond f audience settings e, token = c.tokenOf f e' := by
  obtain ⟨e', he', htoken⟩ := (isPageOf_behind hserved hpage).token_eq token hnext
  exact ⟨e', List.mem_of_mem_take (List.mem_of_getLast? he'), htoken⟩

/-- Every walk from a token ends: the rows beyond the boundaries become fewer. -/
theorem exists_walk_behind (e : Event) :
    ∃ pages, TokenWalk (c.serve f audience settings counts) (some (c.tokenOf f e)) pages := by
  induction hn : (c.beyond f audience settings e).length using Nat.strong_induction_on
    generalizing e with
  | _ n ih =>
    obtain ⟨page, hpage, -⟩ := c.exists_page_behind f settings counts hserved e
    cases htoken : page.pagination.nextToken with
    | none => exact ⟨[page], .last hpage htoken⟩
    | some token =>
      obtain ⟨e', he', rfl⟩ := exists_beyond_of_nextToken hserved hpage htoken
      have hfewer : (c.beyond f audience settings e').length < n := by
        rw [← hn, beyond_eq_of_lt (mem_beyond.1 he').2, List.length_filter_lt_length_iff_exists]
        exact ⟨e', he', by simp [f.sortOrder.lt_irrefl]⟩
      obtain ⟨pages, hpages⟩ := ih _ hfewer e' rfl
      exact ⟨page :: pages, .next hpage htoken hpages⟩

variable (c f settings counts) in
/-- Every walk from an offset ends. -/
theorem exists_walk (hoffset : f.offset ≤ Bson.maxInt64) :
    ∃ pages, TokenWalk (c.serve f audience settings counts) none pages := by
  obtain ⟨page, hpage, hrows⟩ :=
    c.exists_page_first f settings counts hserved hoffset
  cases htoken : page.pagination.nextToken with
  | none => exact ⟨[page], .last hpage htoken⟩
  | some token =>
    obtain ⟨e, -, rfl⟩ := hrows.token_eq token htoken
    obtain ⟨pages, hpages⟩ := exists_walk_behind hserved e
    exact ⟨page :: pages, .next hpage htoken hpages⟩

/-- When each boundary of a walk is exact, its pages deliver all rows that are left. -/
theorem items_eq_of_exact {token : Option String} {pages : List (Page Event)}
    (hwalk : TokenWalk (c.serve f audience settings counts) token pages) {before rest : List Event}
    (hlisting : c.listing f audience settings = before ++ rest)
    (hfirst : ∀ page, c.serve f audience settings counts token = .ok page →
      c.IsPageOf f rest page)
    (hexact : ∀ page ∈ pages, ∀ e ∈ c.listing f audience settings,
      page.pagination.nextToken = some (c.tokenOf f e) →
        c.IsExactBoundary f audience settings e) :
    pages.flatMap (·.items) = rest.map (c.deliver f) := by
  induction hwalk generalizing before rest with
  | @last token page hpage hlast =>
    have hrows := hfirst page hpage
    rw [List.flatMap_singleton, hrows.items_eq, List.take_of_length_le (hrows.length_le hlast)]
  | @next token page following pages hpage hnext hpages ih =>
    have hrows := hfirst page hpage
    obtain ⟨e, he, rfl⟩ := hrows.token_eq following hnext
    have hsplit := listing_eq_of_getLast? hlisting he
    have hbeyond : c.beyond f audience settings e = rest.drop (max f.limit 1) :=
      (isExactBoundary_iff hsplit).1
        (hexact page List.mem_cons_self e (mem_listing_of_eq hsplit) hnext)
    -- What is left behind the page is what stands behind its last row, so the next page starts there.
    have hlater : pages.flatMap (·.items) = (rest.drop (max f.limit 1)).map (c.deliver f) := by
      refine ih (hsplit.trans (List.append_cons _ _ _)) (fun page hpage ↦ ?_)
        fun page hpage ↦ hexact page (List.mem_cons_of_mem _ hpage)
      rw [← hbeyond]
      exact isPageOf_behind hserved hpage
    calc
      (page :: pages).flatMap (·.items) = page.items ++ pages.flatMap (·.items) :=
        List.flatMap_cons
      _ = (rest.take (max f.limit 1)).map (c.deliver f) ++
          (rest.drop (max f.limit 1)).map (c.deliver f) := by
        rw [hrows.items_eq, hlater]
      _ = rest.map (c.deliver f) := by
        rw [← List.map_append, List.take_append_drop]

/-- What a walk delivers behind a token lies beyond the identifier of its row. -/
theorem mem_items_behind {token : Option String} {pages : List (Page Event)}
    (hwalk : TokenWalk (c.serve f audience settings counts) token pages) {e : Event}
    (htoken : token = some (c.tokenOf f e)) {item : Event}
    (hitem : item ∈ pages.flatMap (·.items)) :
    ∃ x ∈ c.beyond f audience settings e, item = c.deliver f x := by
  have hhere : ∀ {e : Event} {page : Page Event},
      c.serve f audience settings counts (some (c.tokenOf f e)) = .ok page → item ∈ page.items →
        ∃ x ∈ c.beyond f audience settings e, item = c.deliver f x := by
    intro e page hpage hitem
    rw [(isPageOf_behind hserved hpage).items_eq] at hitem
    obtain ⟨x, hx, rfl⟩ := List.mem_map.1 hitem
    exact ⟨x, List.mem_of_mem_take hx, rfl⟩
  -- Boundaries advance along a walk: what lies beyond a later one lies beyond the first.
  induction hwalk generalizing e with
  | @last token page hpage hlast =>
    subst htoken
    rw [List.flatMap_singleton] at hitem
    exact hhere hpage hitem
  | @next token page following pages hpage hnext hpages ih =>
    subst htoken
    rw [List.flatMap_cons, List.mem_append] at hitem
    rcases hitem with hitem | hitem
    · exact hhere hpage hitem
    · obtain ⟨e', he', rfl⟩ := exists_beyond_of_nextToken hserved hpage hnext
      obtain ⟨x, hx, rfl⟩ := ih rfl hitem
      rw [beyond_eq_of_lt (mem_beyond.1 he').2] at hx
      exact ⟨x, (List.mem_filter.1 hx).1, rfl⟩

/-- A walk behind a token delivers the first row beyond the identifier. -/
theorem deliver_mem_items_behind {pages : List (Page Event)} {e first : Event}
    {others : List Event}
    (hwalk : TokenWalk (c.serve f audience settings counts) (some (c.tokenOf f e)) pages)
    (hbeyond : c.beyond f audience settings e = first :: others) :
    c.deliver f first ∈ pages.flatMap (·.items) := by
  obtain ⟨page, later, rfl, hpage⟩ := hwalk.exists_cons
  have hfirst : first ∈ (c.beyond f audience settings e).take (max f.limit 1) := by
    rw [hbeyond, show max f.limit 1 = (max f.limit 1 - 1) + 1 by omega, List.take_succ_cons]
    exact List.mem_cons_self
  rw [List.flatMap_cons, (isPageOf_behind hserved hpage).items_eq]
  exact List.mem_append_left _ (List.mem_map_of_mem hfirst)

/-- A walk that delivers what stands behind its row starts at an exact boundary. -/
theorem isExactBoundary_of_items {before after : List Event} {e : Event}
    (hlisting : c.listing f audience settings = before ++ e :: after) {pages : List (Page Event)}
    (hwalk : TokenWalk (c.serve f audience settings counts) (some (c.tokenOf f e)) pages)
    (hitems : pages.flatMap (·.items) = after.map (c.deliver f)) :
    c.IsExactBoundary f audience settings e := by
  have hpairwise : (c.listing f audience settings).Pairwise _ := pairwise_listing
  have hbehind := filter_rank_eq hlisting
  have hmem : ∀ x, x ∈ after ↔ x ∈ c.listing f audience settings ∧
      f.sortOrder.lt (e.rank f.sortBy) (x.rank f.sortBy) := by
    intro x
    rw [← hbehind, List.mem_filter, decide_eq_true_eq]
  have hsorted : (c.beyond f audience settings e).Pairwise _ := hpairwise.filter _
  have hsorted' : after.Pairwise _ := hbehind ▸ hpairwise.filter _
  refine (isExactBoundary_iff hlisting).2 (eq_of_mem_iff hsorted hsorted' fun x ↦ ⟨?_, ?_⟩)
  · -- The walk delivers the first row beyond the identifier, so that one stands behind the row; and
    -- in the order of the listing the other ones come after it.
    intro hx
    obtain ⟨first, others, hbeyond⟩ := List.exists_cons_of_ne_nil (List.ne_nil_of_mem hx)
    have hfirst : first ∈ after := by
      have hitem := deliver_mem_items_behind hserved hwalk hbeyond
      rw [hitems] at hitem
      obtain ⟨y, hy, heq⟩ := List.mem_map.1 hitem
      have hlisted := (mem_beyond.1 (hbeyond ▸ List.mem_cons_self)).1
      rwa [← deliver_inj ((hmem y).1 hy).1 hlisted heq]
    rw [hbeyond] at hsorted
    rcases List.mem_cons.1 (hbeyond ▸ hx) with rfl | hothers
    · exact hfirst
    · have hlater := (List.pairwise_cons.1 hsorted).1 x hothers
      exact (hmem x).2 ⟨(mem_beyond.1 hx).1, f.sortOrder.lt_trans ((hmem first).1 hfirst).2 hlater⟩
  · intro hx
    have hitem : c.deliver f x ∈ pages.flatMap (·.items) := by
      rw [hitems]
      exact List.mem_map_of_mem hx
    obtain ⟨y, hy, heq⟩ := mem_items_behind hserved hwalk rfl hitem
    rwa [deliver_inj ((hmem x).1 hx).1 (mem_beyond.1 hy).1 heq]

/-- A walk that delivers all rows that are left meets exact boundaries only. -/
theorem exact_of_items_eq {token : Option String} {pages : List (Page Event)}
    (hwalk : TokenWalk (c.serve f audience settings counts) token pages) {before rest : List Event}
    (hlisting : c.listing f audience settings = before ++ rest)
    (hfirst : ∀ page, c.serve f audience settings counts token = .ok page →
      c.IsPageOf f rest page)
    (hitems : pages.flatMap (·.items) = rest.map (c.deliver f)) :
    ∀ page ∈ pages, ∀ e ∈ c.listing f audience settings,
      page.pagination.nextToken = some (c.tokenOf f e) →
        c.IsExactBoundary f audience settings e := by
  induction hwalk generalizing before rest with
  | @last token page hpage hlast =>
    intro page' hpage' e _ hnext
    rw [List.mem_singleton.1 hpage', hlast] at hnext
    cases hnext
  | @next token page following pages hpage hnext hpages ih =>
    have hrows := hfirst page hpage
    obtain ⟨e, he, rfl⟩ := hrows.token_eq following hnext
    have hsplit := listing_eq_of_getLast? hlisting he
    -- Only once the first boundary is known to be exact does the walk go on with what is left.
    have hlater : pages.flatMap (·.items) = (rest.drop (max f.limit 1)).map (c.deliver f) := by
      rw [List.flatMap_cons, hrows.items_eq] at hitems
      rw [← List.append_cancel_left_eq, hitems, ← List.map_append, List.take_append_drop]
    have hexact : c.IsExactBoundary f audience settings e :=
      isExactBoundary_of_items hserved hsplit hpages hlater
    have hbeyond := (isExactBoundary_iff hsplit).1 hexact
    rw [List.forall_mem_cons]
    constructor
    · intro e' he' hnext'
      have htoken : c.tokenOf f e = c.tokenOf f e' := Option.some.inj (hnext.symm.trans hnext')
      rwa [← tokenOf_inj (mem_listing_of_eq hsplit) he' htoken]
    · refine ih (hsplit.trans (List.append_cons _ _ _)) (fun page hpage ↦ ?_) hlater
      rw [← hbeyond]
      exact isPageOf_behind hserved hpage

end

variable (c) in
/-- Whether the identifiers never run against a sort field. -/
def Agrees (field : SortField) : Prop :=
  ∀ r ∈ c.events, ∀ s ∈ c.events, r.id < s.id → (r.sortValue field).key ≤ (s.sortValue field).key

/-- Identifiers that agree with a sort field order the events as their places do. -/
theorem Agrees.rank_lt_iff {field : SortField} (h : c.Agrees field) {a b : Event}
    (ha : a ∈ c.events) (hb : b ∈ c.events) : a.rank field < b.rank field ↔ a.id < b.id := by
  rw [Event.rank, Event.rank, Prod.Lex.toLex_lt_toLex]
  constructor
  · rintro (hkey | ⟨-, hid⟩)
    · rcases lt_trichotomy a.id b.id with hid | hid | hid
      · exact hid
      · rw [c.eq_of_id_eq ha hb hid] at hkey
        exact absurd hkey (lt_irrefl _)
      · exact absurd hkey (not_lt.2 (h b hb a ha hid))
    · exact hid
  · intro hid
    rcases (h a ha b hb hid).lt_or_eq with hkey | hkey
    · exact .inl hkey
    · exact .inr ⟨hkey, hid⟩

theorem Agrees.isExactBoundary (h : c.Agrees f.sortBy) {e : Event}
    (he : e ∈ c.listing f audience settings) : c.IsExactBoundary f audience settings e := by
  intro x hx
  have hevent := mem_events_of_mem_listing he
  have hother := mem_events_of_mem_listing hx
  cases f.sortOrder with
  | ascending => exact (h.rank_lt_iff hevent hother).symm
  | descending => exact (h.rank_lt_iff hother hevent).symm

/-- An event of a tenant, for examples. -/
def entry (id : BitVec 128) (title : String) (createdAt : Int) : Event :=
  { (default : Event) with
    id := ⟨id⟩
    tenantId := "tenant"
    title
    createdAt := .ofMillis createdAt }

/-- Two events whose titles run against their identifiers and their times of creation. -/
def crossed : Catalog where
  events := [entry 1 "b" 0, entry 2 "a" 1]
  sessions := []
  matchesPattern _ _ _ := false
  liesWithin _ _ := false
  distinct := by decide
  capacities := by decide

/-- The events of the tenant one by one. -/
def oneByOne (sortBy : SortField) : EventFilter :=
  { EventFilter.forTenant "tenant" with sortBy, sortOrder := .ascending, limit := 1 }

variable (c f audience settings counts)

/-- Where identifiers and stored times of creation agree, the walk by creation delivers the listing
from the offset on, each event once. -/
theorem tokenWalk_items_of_createdAt
    (hagree : ∀ r ∈ c.events, ∀ s ∈ c.events,
      r.id < s.id → r.createdAt.toMillis ≤ s.createdAt.toMillis)
    (hsort : f.sortBy = .createdAt) (hlimit : f.limit < 2 ^ 63 - 1) (hoffset : f.offset < 2 ^ 63)
    (haudience : Service.checkTenant f audience = .ok ()) :
    ∃ pages, TokenWalk (c.serve f audience settings counts) none pages ∧
      (∀ others, TokenWalk (c.serve f audience settings counts) none others → others = pages) ∧
      pages.flatMap (·.items) =
        ((c.listing f audience settings).drop f.offset).map (c.deliver f) := by
  have hserved : c.IsServed f audience settings := by
    refine ⟨haudience, .inl ?_⟩
    rw [Bson.maxInt64]
    omega
  have hstart : f.offset ≤ Bson.maxInt64 := Nat.le_of_lt_succ hoffset
  have hagrees : c.Agrees f.sortBy := by
    rw [hsort]
    exact fun r hr s hs hid ↦ (Bson.key_date_le _ _).2 (hagree r hr s hs hid)
  obtain ⟨pages, hwalk⟩ := c.exists_walk f settings counts hserved hstart
  refine ⟨pages, hwalk, fun others ↦ hwalk.unique, ?_⟩
  exact items_eq_of_exact hserved hwalk (List.take_append_drop f.offset _).symm
    (fun page ↦ isPageOf_first hserved hstart) fun page _ e he _ ↦ hagrees.isExactBoundary he

theorem tokenWalk_crossed_createdAt :
    ∃ pages, TokenWalk (crossed.serve (oneByOne .createdAt) .console .standard true) none pages ∧
      (pages.flatMap (·.items)).map (·.id) = [⟨1⟩, ⟨2⟩] := by
  obtain ⟨pages, hwalk, -, hitems⟩ := tokenWalk_items_of_createdAt crossed (oneByOne .createdAt)
    .console .standard true (by decide) rfl (by decide) (by decide) (by decide)
  refine ⟨pages, hwalk, ?_⟩
  rw [hitems, List.map_map]
  simp only [Function.comp_def, id_deliver]
  decide

/-- Sorted by whatever field, a token leaves the rows beyond the identifier of its row.  So the walk
from the first page delivers the listing, each event once, exactly when these are the rows behind
the place of the row, at each of its tokens. -/
theorem tokenWalk_items_iff (hoffset : f.offset = 0)
    (hcapacity : f.limit < 2 ^ 63 - 1 ∨ (c.listing f audience settings).length < 2 ^ 63)
    (haudience : Service.checkTenant f audience = .ok ()) :
    (∀ e, ∃ page, c.serve f audience settings counts (some (c.tokenOf f e)) = .ok page ∧
      page.items = (((c.listing f audience settings).filter fun x ↦
        f.sortOrder.lt e.id x.id).take (max f.limit 1)).map (c.deliver f)) ∧
    ∃ pages, TokenWalk (c.serve f audience settings counts) none pages ∧
      (∀ others, TokenWalk (c.serve f audience settings counts) none others → others = pages) ∧
      (pages.flatMap (·.items) = (c.listing f audience settings).map (c.deliver f) ↔
        ∀ page ∈ pages, ∀ e ∈ c.listing f audience settings,
          page.pagination.nextToken = some (c.tokenOf f e) →
            ∀ x ∈ c.listing f audience settings,
              (f.sortOrder.lt e.id x.id ↔
                f.sortOrder.lt (e.rank f.sortBy) (x.rank f.sortBy))) := by
  have hserved : c.IsServed f audience settings := by
    refine ⟨haudience, ?_⟩
    rw [Bson.maxInt64]
    omega
  have hstart : f.offset ≤ Bson.maxInt64 := by
    rw [hoffset]
    exact Nat.zero_le _
  constructor
  · intro e
    obtain ⟨page, hpage, hrows⟩ := c.exists_page_behind f settings counts hserved e
    exact ⟨page, hpage, hrows.items_eq⟩
  · obtain ⟨pages, hwalk⟩ := c.exists_walk f settings counts hserved hstart
    have hfirst : ∀ page, c.serve f audience settings counts none = .ok page →
        c.IsPageOf f (c.listing f audience settings) page := by
      intro page hpage
      have hrows := isPageOf_first hserved hstart hpage
      rwa [hoffset, List.drop_zero] at hrows
    refine ⟨pages, hwalk, fun others ↦ hwalk.unique, ?_, ?_⟩
    · exact exact_of_items_eq hserved hwalk (List.nil_append _).symm hfirst
    · exact items_eq_of_exact hserved hwalk (List.nil_append _).symm hfirst

theorem tokenWalk_crossed_updatedAt :
    ∃ pages, TokenWalk (crossed.serve (oneByOne .updatedAt) .console .standard true) none pages ∧
      pages.flatMap (·.items) =
        (crossed.listing (oneByOne .updatedAt) .console .standard).map
          (crossed.deliver (oneByOne .updatedAt)) := by
  have hagrees : crossed.Agrees .updatedAt := by
    unfold Agrees
    decide
  obtain ⟨-, pages, hwalk, -, hitems⟩ := tokenWalk_items_iff crossed (oneByOne .updatedAt)
    .console .standard true rfl (.inl (by decide)) (by decide)
  exact ⟨pages, hwalk, hitems.2 fun _ _ e he _ ↦ hagrees.isExactBoundary he⟩

/-- Sorted by title, the walk over the crossed events loses one. -/
theorem tokenWalk_crossed_title :
    ∃ pages, TokenWalk (crossed.serve (oneByOne .title) .console .standard true) none pages ∧
      pages.flatMap (·.items) ≠
        (crossed.listing (oneByOne .title) .console .standard).map
          (crossed.deliver (oneByOne .title)) := by
  have hserved : crossed.IsServed (oneByOne .title) .console .standard :=
    ⟨by decide, .inl (by decide)⟩
  have hlisting : crossed.listing (oneByOne .title) .console .standard =
      [entry 2 "a" 1, entry 1 "b" 0] := by
    decide
  have hfirst : ∀ page, crossed.serve (oneByOne .title) .console .standard true none = .ok page →
      crossed.IsPageOf (oneByOne .title)
        (crossed.listing (oneByOne .title) .console .standard) page :=
    fun page ↦ isPageOf_first hserved (by decide)
  obtain ⟨pages, hwalk⟩ := crossed.exists_walk (oneByOne .title) .standard true hserved (by decide)
  refine ⟨pages, hwalk, fun hitems ↦ ?_⟩
  have hexact := exact_of_items_eq hserved hwalk (List.nil_append _).symm hfirst hitems
  obtain ⟨page, later, rfl, hpage⟩ := hwalk.exists_cons
  have hrows := hfirst page hpage
  rw [hlisting] at hrows
  cases hnext : page.pagination.nextToken with
  | none => exact absurd (hrows.length_le hnext) (by decide)
  | some token =>
    obtain ⟨e, he, rfl⟩ := hrows.token_eq token hnext
    obtain rfl : entry 2 "a" 1 = e := Option.some.inj he
    have hboundary := hexact page List.mem_cons_self (entry 2 "a" 1) (by rw [hlisting]; simp) hnext
      (entry 1 "b" 0) (by rw [hlisting]; simp)
    exact absurd (hboundary.2 (by decide)) (by decide)

end Catalog

end EventCatalog
