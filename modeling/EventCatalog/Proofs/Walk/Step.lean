import EventCatalog.Proofs.Cursor
import EventCatalog.Proofs.Listing
import EventCatalog.Proofs.Page

/-!
# One page of a walk

A page takes rows off the front of what is left of the listing.  Without a token nothing is left
behind it; with a token it names the last row of the page, which then is the boundary of the next
one.  This holds of both ways of paging, although only one of them fetches a row too many and the
other one has to judge by numbers.
-/

namespace EventCatalog

/-- A bound that the rows or their wanted number keep does not cut. -/
theorem take_min_of_fits {rows : List α} {n bound : Nat} (h : n ≤ bound ∨ rows.length ≤ bound) :
    rows.take (min n bound) = rows.take n := by
  rcases h with hn | hrows
  · rw [Nat.min_eq_left hn]
  · rw [← List.take_take, List.take_of_length_le hrows]

namespace EventFilter

variable {f : EventFilter} {rows : List α}
  (hfits : max f.limit 1 < Bson.maxInt64 ∨ rows.length ≤ Bson.maxInt64)

include hfits

theorem fetched_some (t : Cursor) : f.fetched (some t) rows = rows.take (max f.limit 1 + 1) :=
  take_min_of_fits hfits

theorem fetched_none (hoffset : f.offset ≤ Bson.maxInt64) :
    f.fetched none rows = (rows.drop f.offset).take (max f.limit 1) := by
  have hfits' : max f.limit 1 ≤ Bson.maxInt64 ∨ (rows.drop f.offset).length ≤ Bson.maxInt64 := by
    rw [List.length_drop]
    omega
  rw [fetched, Nat.min_eq_left hoffset]
  exact take_min_of_fits hfits'

end EventFilter

namespace Catalog

variable (c : Catalog) (f : EventFilter) (audience : Audience) (settings : PageSettings)

/-- The token behind an event. -/
def tokenOf (e : Event) : String := (Event.position (c.deliver f e)).encode

theorem cursorOf_tokenOf (e : Event) :
    Plan.cursorOf { f with pageToken := some (c.tokenOf f e) } =
      .ok (some (Event.position (c.deliver f e)).asPrinted) :=
  Plan.cursorOf_of_encode _ rfl

/-- The events of the listing beyond the identifier of an event. -/
def beyond (e : Event) : List Event :=
  (c.listing f audience settings).filter fun x ↦ f.sortOrder.lt e.id x.id

theorem lastId_position_deliver (e : Event) :
    (Event.position (c.deliver f e)).lastId = some e.id := by
  rw [Event.position, id_deliver]

/-- A token leaves what is beyond the identifier of its event. -/
theorem remaining_position (e : Event) :
    c.remaining f audience settings (some (Event.position (c.deliver f e)).asPrinted) =
      c.beyond f audience settings e := by
  rw [remaining, beyond, Option.bind_some, Cursor.lastId_asPrinted, lastId_position_deliver]
  rfl

/-- The page behind a token; the first one without a token. -/
def serve (counts : Bool) (token : Option String) : Except EventError (Page Event) :=
  c.list { f with pageToken := token } audience settings counts

/-- Whether a filter is served: it names a tenant where it has to, and its pages, or else all of the
listing, stay within 64 bits. -/
structure IsServed : Prop where
  tenant : Service.checkTenant f audience = .ok ()
  fits : max f.limit 1 < Bson.maxInt64 ∨ (c.listing f audience settings).length ≤ Bson.maxInt64

/-- Whether a page is the first one of some rows. -/
structure IsPageOf (rest : List Event) (page : Page Event) : Prop where
  items_eq : page.items = (rest.take (max f.limit 1)).map (c.deliver f)
  /-- Without a token nothing is left. -/
  length_le : page.pagination.nextToken = none → rest.length ≤ max f.limit 1
  /-- A token names the last row. -/
  token_eq : ∀ token, page.pagination.nextToken = some token →
    ∃ e, (rest.take (max f.limit 1)).getLast? = some e ∧ token = c.tokenOf f e

variable {c f audience settings}

/-- A page is one of the rows it was fetched from when it has all of them that it should have and
its description does not end the walk too early or too late. -/
theorem isPageOf_ofRows {rest fetched : List Event} {mode : PageMode}
    (hitems : Page.keep fetched (max f.limit 1) mode = rest.take (max f.limit 1))
    (hmore : (Pagination.ofMode fetched.length (max f.limit 1) mode).hasNext = false →
      rest.length ≤ max f.limit 1)
    (hsome : (Pagination.ofMode fetched.length (max f.limit 1) mode).hasNext = true → rest ≠ []) :
    c.IsPageOf f rest
      (Page.ofRows Event.position (fetched.map (c.deliver f)) (max f.limit 1) mode) := by
  have hkeep : Page.keep (fetched.map (c.deliver f)) (max f.limit 1) mode =
      (rest.take (max f.limit 1)).map (c.deliver f) := by
    rw [← hitems]
    cases mode with
    | cursor => exact (List.map_take ..).symm
    | offset offset total => rfl
  have hlimit : max (max f.limit 1) 1 = max f.limit 1 := by omega
  constructor
  · simp only [Page.ofRows, hlimit, hkeep]
  · simp only [Page.ofRows, hlimit, hkeep, List.length_map]
    split
    next hnext =>
      intro hnone
      have hempty : rest.take (max f.limit 1) = [] := by
        simpa using hnone
      rcases List.take_eq_nil_iff.1 hempty with hzero | hnil
      · omega
      · exact absurd hnil (hsome hnext)
    next hlast => exact fun _ ↦ hmore (by simpa using hlast)
  · simp only [Page.ofRows, hlimit, hkeep, List.length_map]
    intro token htoken
    split at htoken
    next hnext =>
      rw [List.getLast?_map, Option.map_map] at htoken
      obtain ⟨e, he, rfl⟩ := Option.map_eq_some_iff.1 htoken
      exact ⟨e, he, rfl⟩
    next hlast => cases htoken

/-- Following a token, the row too many tells whether something is left. -/
theorem isPageOf_cursor {rest : List Event} (t : Cursor)
    (hfits : max f.limit 1 < Bson.maxInt64 ∨ rest.length ≤ Bson.maxInt64) :
    c.IsPageOf f rest
      (Page.ofRows Event.position ((f.fetched (some t) rest).map (c.deliver f)) (max f.limit 1)
        .cursor) := by
  rw [EventFilter.fetched_some hfits]
  apply isPageOf_ofRows
  · rw [Page.keep, List.take_take, Nat.min_eq_left (Nat.le_succ _)]
  · intro hlast
    have hnot : ¬max f.limit 1 < (rest.take (max f.limit 1 + 1)).length := by
      simpa [Pagination.ofMode] using hlast
    rw [List.length_take] at hnot
    omega
  · intro hnext hnil
    have hlt : max f.limit 1 < (rest.take (max f.limit 1 + 1)).length := by
      simpa [Pagination.ofMode] using hnext
    rw [hnil, List.take_nil] at hlt
    exact absurd hlt (Nat.not_lt_zero _)

/-- Following an offset, the numbers of pages never hide a row, and a successor is only announced
behind a row. -/
theorem isPageOf_offset {all : List Event} {total : Option Nat}
    (hfits : max f.limit 1 < Bson.maxInt64 ∨ all.length ≤ Bson.maxInt64)
    (hoffset : f.offset ≤ Bson.maxInt64) (htotal : ∀ n ∈ total, n = all.length) :
    c.IsPageOf f (all.drop f.offset)
      (Page.ofRows Event.position ((f.fetched none all).map (c.deliver f)) (max f.limit 1)
        (.offset f.offset total)) := by
  have hlimit : 0 < max f.limit 1 := by omega
  have hlength : ((all.drop f.offset).take (max f.limit 1)).length =
      min (max f.limit 1) (all.length - f.offset) := by
    rw [List.length_take, List.length_drop]
  rw [EventFilter.fetched_none hfits hoffset]
  apply isPageOf_ofRows
  · rfl
  · rw [hlength, List.length_drop]
    exact Pagination.sub_le_of_hasNext_eq_false hlimit htotal
  · rw [hlength]
    intro hnext hnil
    have hrow := Pagination.lt_of_hasNext hlimit htotal hnext
    exact absurd (List.drop_eq_nil_iff.1 hnil) (Nat.not_le.2 hrow)

variable (c f settings) in
/-- The pages of a walk over a catalog: the first one starts at the offset, and the one behind a row
holds the rows beyond its identifier. -/
theorem exists_page_first (counts : Bool) (hserved : c.IsServed f audience settings)
    (hoffset : f.offset ≤ Bson.maxInt64) :
    ∃ page, c.serve f audience settings counts none = .ok page ∧
      c.IsPageOf f ((c.listing f audience settings).drop f.offset) page := by
  have hcursor : Plan.cursorOf { f with pageToken := none } = .ok none := rfl
  have hall : c.remaining f audience settings none = c.listing f audience settings :=
    List.filter_eq_self.2 fun _ _ ↦ rfl
  have htotal : ∀ n ∈ (if counts then counted (c.listing f audience settings).length else none),
      n = (c.listing f audience settings).length := by
    intro n hn
    unfold counted at hn
    split at hn
    · split at hn
      · exact (Option.some.inj hn).symm
      · cases hn
    · cases hn
  refine ⟨_, c.list_eq _ audience settings counts hserved.tenant hcursor, ?_⟩
  change c.IsPageOf f _ (Page.ofRows Event.position
    ((f.fetched none (c.remaining f audience settings none)).map (c.deliver f)) (max f.limit 1)
    (.offset f.offset _))
  rw [hall]
  exact isPageOf_offset hserved.fits hoffset htotal

variable (c f settings) in
theorem exists_page_behind (counts : Bool) (hserved : c.IsServed f audience settings) (e : Event) :
    ∃ page, c.serve f audience settings counts (some (c.tokenOf f e)) = .ok page ∧
      c.IsPageOf f (c.beyond f audience settings e) page := by
  have hlength : (c.beyond f audience settings e).length ≤
      (c.listing f audience settings).length := List.length_filter_le _ _
  have hlist := c.list_eq { f with pageToken := some (c.tokenOf f e) } audience settings counts
    hserved.tenant (c.cursorOf_tokenOf f e)
  have hremaining : c.remaining { f with pageToken := some (c.tokenOf f e) } audience settings
      (some (Event.position (c.deliver f e)).asPrinted) = c.beyond f audience settings e :=
    c.remaining_position f audience settings e
  rw [hremaining] at hlist
  exact ⟨_, hlist, isPageOf_cursor _ (hserved.fits.imp_right hlength.trans)⟩

theorem isPageOf_first {counts : Bool} (hserved : c.IsServed f audience settings)
    (hoffset : f.offset ≤ Bson.maxInt64) {page : Page Event}
    (hpage : c.serve f audience settings counts none = .ok page) :
    c.IsPageOf f ((c.listing f audience settings).drop f.offset) page := by
  obtain ⟨page', hpage', hrows⟩ := c.exists_page_first f settings counts hserved hoffset
  rwa [Except.ok.inj (hpage.symm.trans hpage')]

theorem isPageOf_behind {counts : Bool} (hserved : c.IsServed f audience settings) {e : Event}
    {page : Page Event}
    (hpage : c.serve f audience settings counts (some (c.tokenOf f e)) = .ok page) :
    c.IsPageOf f (c.beyond f audience settings e) page := by
  obtain ⟨page', hpage', hrows⟩ := c.exists_page_behind f settings counts hserved e
  rwa [Except.ok.inj (hpage.symm.trans hpage')]

end Catalog

end EventCatalog
