import EventCatalog.Page
import EventCatalog.Proofs.Cursor

/-!
# Where a page continues

A page keeps rows from the front of those that were fetched.  Its token stands for the last row that
it keeps, never for one that was fetched only to see whether more follow, and there is a token
exactly where the page announces a successor and has a row to continue after.  The token holds the
identifier of this row and its time in printed form.  Numbers of pages are given only where the rows
were counted.
-/

namespace EventCatalog.Page

/-- What a page says of the rows that were fetched for it, each of which has an identifier and a
time. -/
structure Describes (id : α → Uuid) (time : α → Instant) (rows : List α) (limit : Nat)
    (mode : PageMode) (page : Page α) : Prop where
  items_initial : page.items <+: rows
  items_offset : ∀ offset total, mode = .offset offset total → page.items = rows
  length_items_cursor : mode = .cursor → page.items.length = min (max limit 1) rows.length
  hasNext_cursor : mode = .cursor →
    (page.pagination.hasNext = true ↔ page.items.length < rows.length)
  nextToken_isSome :
    page.pagination.nextToken.isSome = true ↔ page.pagination.hasNext = true ∧ page.items ≠ []
  decode_nextToken : ∀ token ∈ page.pagination.nextToken, ∃ row,
    page.items.getLast? = some row ∧
      Cursor.decode token = .ok ⟨some (id row), (time row).asPrinted⟩ ∧
        (Cursor.decode token = .ok ⟨some (id row), time row⟩ ↔ (time row).LeapsAtMinuteEnd)
  totalCount_isSome :
    page.pagination.totalCount.isSome = true ↔ ∃ offset total, mode = .offset offset (some total)
  currentPage_isSome : page.pagination.currentPage.isSome = page.pagination.totalCount.isSome
  totalPages_isSome : page.pagination.totalPages.isSome = page.pagination.totalCount.isSome

section Rows

variable (position : α → Cursor) (rows : List α) (limit : Nat) (mode : PageMode)

theorem keep_initial : keep rows limit mode <+: rows := by
  cases mode with
  | cursor => exact List.take_prefix limit rows
  | offset offset total => exact List.prefix_rfl

@[simp]
theorem items_ofRows : (ofRows position rows limit mode).items = keep rows (max limit 1) mode := rfl

/-- A page announces what its numbers announce, with or without a token. -/
@[simp]
theorem hasNext_ofRows : (ofRows position rows limit mode).pagination.hasNext =
    (Pagination.ofMode rows.length (max limit 1) mode).hasNext := rfl

/-- The token of a page is that of the last row that stays on it. -/
theorem nextToken_ofRows : (ofRows position rows limit mode).pagination.nextToken =
    if (ofRows position rows limit mode).pagination.hasNext = true then
      (ofRows position rows limit mode).items.getLast?.map fun row ↦ (position row).encode
    else none := rfl

theorem nextToken_isSome_ofRows :
    (ofRows position rows limit mode).pagination.nextToken.isSome = true ↔
      (ofRows position rows limit mode).pagination.hasNext = true ∧
        (ofRows position rows limit mode).items ≠ [] := by
  rw [nextToken_ofRows]
  split
  next hnext => simp only [hnext, Option.isSome_map, List.getLast?_isSome, true_and]
  next hnext => simp only [hnext, Option.isSome_none, Bool.false_eq_true, false_and]

/-- A token is that of the position of the last row that stays. -/
theorem exists_row_of_nextToken_ofRows {token : String}
    (h : token ∈ (ofRows position rows limit mode).pagination.nextToken) :
    ∃ row, (ofRows position rows limit mode).items.getLast? = some row ∧
      token = (position row).encode := by
  rw [nextToken_ofRows] at h
  split at h
  next =>
    obtain ⟨row, hrow, rfl⟩ := Option.map_eq_some_iff.1 h
    exact ⟨row, hrow, rfl⟩
  next => cases h

/-- Where a token is followed, one row more than the page has is what announces a successor. -/
theorem hasNext_ofRows_cursor : (ofRows position rows limit .cursor).pagination.hasNext = true ↔
    (ofRows position rows limit .cursor).items.length < rows.length := by
  rw [hasNext_ofRows, Pagination.ofMode, decide_eq_true_iff, items_ofRows, keep, List.length_take]
  omega

theorem totalCount_isSome_ofRows :
    (ofRows position rows limit mode).pagination.totalCount.isSome = true ↔
      ∃ offset total, mode = .offset offset (some total) := by
  rcases mode with _ | ⟨offset, _ | total⟩
  · simp [ofRows, Pagination.ofMode]
  · simp [ofRows, Pagination.ofMode]
  · simp [ofRows, Pagination.ofMode]

/-- The numbers of pages come with the total. -/
theorem pageNumbers_isSome_ofRows :
    (ofRows position rows limit mode).pagination.currentPage.isSome =
        (ofRows position rows limit mode).pagination.totalCount.isSome ∧
      (ofRows position rows limit mode).pagination.totalPages.isSome =
        (ofRows position rows limit mode).pagination.totalCount.isSome := by
  rcases mode with _ | ⟨offset, _ | total⟩ <;> exact ⟨rfl, rfl⟩

end Rows

/-- The page of any fetched rows, of any limit and in any mode, is told apart from the rows as
`Describes` says; no limit at all counts as one. -/
theorem describes_ofRows (id : α → Uuid) (time : α → Instant) (rows : List α) (limit : Nat)
    (mode : PageMode) :
    Describes id time rows limit mode
      (ofRows (fun row ↦ ⟨some (id row), time row⟩) rows limit mode) where
  items_initial := keep_initial rows (max limit 1) mode
  items_offset := by
    rintro offset total rfl
    rfl
  length_items_cursor := by
    rintro rfl
    rw [items_ofRows, keep, List.length_take]
  hasNext_cursor := by
    rintro rfl
    exact hasNext_ofRows_cursor _ rows limit
  nextToken_isSome := nextToken_isSome_ofRows _ rows limit mode
  decode_nextToken := by
    intro token htoken
    obtain ⟨row, hrow, rfl⟩ := exists_row_of_nextToken_ofRows _ rows limit mode htoken
    exact ⟨row, hrow, Cursor.decode_encode _, Cursor.decode_encode_eq_ok_iff⟩
  totalCount_isSome := totalCount_isSome_ofRows _ rows limit mode
  currentPage_isSome := (pageNumbers_isSome_ofRows _ rows limit mode).1
  totalPages_isSome := (pageNumbers_isSome_ofRows _ rows limit mode).2

/-- An event that was created half a leap second behind half a minute. -/
def createdWithinMinute : Event :=
  { (default : Event) with createdAt := Cursor.withinMinute.timestamp }

/-- The token of a full page that ends with this event does not stand for when it was created. -/
theorem nextToken_createdWithinMinute :
    ∃ token c, token ∈ (ofRows Event.position [createdWithinMinute] 1
        (.offset 0 none)).pagination.nextToken ∧ Cursor.decode token = .ok c ∧
      c.timestamp ≠ createdWithinMinute.createdAt :=
  ⟨_, _, rfl, Cursor.decode_encode _, by decide⟩

end EventCatalog.Page
