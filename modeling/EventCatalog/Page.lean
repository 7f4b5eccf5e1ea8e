import EventCatalog.Cursor
import EventCatalog.Event.Response

/-!
# Pages

The rows fetched for a plan as a page with its neighbours.  Following a token, a row beyond the
limit says that another page exists and is dropped.  Following an offset, the total decides; without
a total, a full page is taken to have a successor.
-/

namespace EventCatalog

/-- How the rows of a page were selected. -/
inductive PageMode where
  | cursor
  /-- The total is absent when it could not be counted. -/
  | offset (offset : Nat) (total : Option Nat)
  deriving DecidableEq, Repr

/-- What a client is told about a page. -/
structure Pagination where
  nextToken : Option String
  prevToken : Option String
  hasNext : Bool
  hasPrev : Bool
  totalCount : Option Nat
  /-- Counted from one. -/
  currentPage : Option Nat
  totalPages : Option Nat
  deriving DecidableEq, Repr

structure Page (α : Type) where
  items : List α
  pagination : Pagination
  deriving Repr

namespace Pagination

/-- The members of the description in their order. -/
def toJson (p : Pagination) : Json :=
  .object (Json.optionalMember "next_token" (p.nextToken.map .string) ++
    Json.optionalMember "prev_token" (p.prevToken.map .string) ++
    [("has_next", .bool p.hasNext), ("has_prev", .bool p.hasPrev)] ++
    Json.optionalMember "total_count" (p.totalCount.map fun n ↦ Json.int n) ++
    Json.optionalMember "current_page" (p.currentPage.map fun n ↦ Json.int n) ++
    Json.optionalMember "total_pages" (p.totalPages.map fun n ↦ Json.int n))

/-- The description of a page of `fetched` rows, without its token. -/
def ofMode (fetched limit : Nat) : PageMode → Pagination
  | .cursor => ⟨none, none, limit < fetched, true, none, none, none⟩
  | .offset offset none => ⟨none, none, fetched = limit, 0 < offset, none, none, none⟩
  | .offset offset (some total) =>
    let current := offset / limit + 1
    let pages := (total + limit - 1) / limit
    ⟨none, none, current < pages, 1 < current, some total, some (min current Text.max32),
      some (min pages Text.max32)⟩

end Pagination

namespace Page

/-- The rows that stay on a page. -/
def keep (rows : List α) (limit : Nat) : PageMode → List α
  | .cursor => rows.take limit
  | .offset _ _ => rows

/-- The page of fetched rows; `position` is the cursor of a row.  The token continues after the last
row that stays. -/
def ofRows (position : α → Cursor) (rows : List α) (limit : Nat) (mode : PageMode) : Page α :=
  let limit := max limit 1
  let items := keep rows limit mode
  let pagination := Pagination.ofMode rows.length limit mode
  let token :=
    if pagination.hasNext then items.getLast?.map fun row ↦ (position row).encode else none
  ⟨items, { pagination with nextToken := token }⟩

end Page

/-- The cursor after an event. -/
def Event.position (e : Event) : Cursor := ⟨some e.id, e.createdAt⟩

def eventPageJson (p : Page Event) : Json :=
  .object [("data", .array (p.items.map Event.toJson)), ("pagination", p.pagination.toJson)]

end EventCatalog
