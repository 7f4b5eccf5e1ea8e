import EventCatalog.Page

/-!
# Neighbours of a page

What a page that follows an offset says of its neighbours.  Without a total it looks at the offset
and at the number of its rows.  With one it compares numbers of pages, and an offset within a page
counts as that page: the answers are those of the multiple of the limit at or below the offset.
-/

namespace EventCatalog

namespace Pagination

variable {offset limit fetched n : Nat} {total : Option Nat}

/-- Whether an offset's page of `limit` rows out of `n` has a successor, by the numbers of pages. -/
theorem current_lt_pages_iff (hlimit : 0 < limit) :
    offset / limit + 1 < (n + limit - 1) / limit ↔ (offset / limit + 1) * limit < n := by
  rw [← Nat.succ_le_iff, Nat.le_div_iff_mul_le hlimit, Nat.succ_mul]
  omega

/-- With a total, the end of the page is looked for too far in front by as much as the offset is
beyond the start of its page. -/
theorem hasNext_counted (hlimit : 0 < limit) :
    (ofMode fetched limit (.offset offset (some n))).hasNext = true ↔
      offset + limit < n + offset % limit := by
  have hoffset : offset / limit * limit + offset % limit = offset := Nat.div_add_mod' offset limit
  calc (ofMode fetched limit (.offset offset (some n))).hasNext = true
      ↔ offset / limit + 1 < (n + limit - 1) / limit := decide_eq_true_iff
    _ ↔ offset / limit * limit + limit < n := by
      rw [current_lt_pages_iff hlimit, Nat.succ_mul]
    _ ↔ offset + limit < n + offset % limit := by omega

/-- Whether rows are in front of a page is a matter of its offset.  With a total it has to reach the
second page for that. -/
theorem hasPrev_offset (hlimit : 0 < limit) :
    (ofMode fetched limit (.offset offset total)).hasPrev =
      if total.isSome then decide (limit ≤ offset) else decide (0 < offset) := by
  cases total with
  | none => rfl
  | some n =>
    apply decide_eq_decide.2
    calc 1 < offset / limit + 1
        ↔ 1 ≤ offset / limit := Nat.succ_lt_succ_iff
      _ ↔ limit ≤ offset := by rw [Nat.le_div_iff_mul_le hlimit, Nat.one_mul]

/-- A page that announces no successor leaves no row behind.  An offset within a page counts as that
page, so the numbers may announce a successor too many, but none too few. -/
theorem sub_le_of_hasNext_eq_false (hlimit : 0 < limit) (htotal : ∀ m ∈ total, m = n)
    (h : (ofMode (min limit (n - offset)) limit (.offset offset total)).hasNext = false) :
    n - offset ≤ limit := by
  cases total with
  | none =>
    have hne : min limit (n - offset) ≠ limit := by
      simpa [ofMode] using h
    omega
  | some m =>
    obtain rfl := htotal m rfl
    have hnot := mt (hasNext_counted hlimit).2 (Bool.eq_false_iff.1 h)
    omega

/-- A page that announces a successor has a row. -/
theorem lt_of_hasNext (hlimit : 0 < limit) (htotal : ∀ m ∈ total, m = n)
    (h : (ofMode (min limit (n - offset)) limit (.offset offset total)).hasNext = true) :
    offset < n := by
  cases total with
  | none =>
    have heq : min limit (n - offset) = limit := by
      simpa [ofMode] using h
    omega
  | some m =>
    obtain rfl := htotal m rfl
    have hlt := (hasNext_counted hlimit).1 h
    have hwithin := Nat.mod_lt offset hlimit
    omega

end Pagination

namespace Page

theorem hasPrev_ofRows_offset (position : α → Cursor) (rows : List α) (limit offset : Nat)
    (total : Option Nat) :
    (ofRows position rows limit (.offset offset total)).pagination.hasPrev =
      if total.isSome then decide (max limit 1 ≤ offset) else decide (0 < offset) :=
  Pagination.hasPrev_offset (Nat.le_max_right limit 1)

/-- The page at an offset of rows that were counted. -/
def countedAt (position : α → Cursor) (rows : List α) (offset limit : Nat) : Page α :=
  ofRows position ((rows.drop offset).take limit) limit (.offset offset (some rows.length))

/-- A page of counted rows announces a successor whenever rows follow it, and at a multiple of the
limit only then.  At any other offset it also does when the rows end before the page does, by less
than the offset is beyond the multiple below it. -/
theorem hasNext_countedAt (position : α → Cursor) (rows : List α) {offset limit : Nat}
    (hlimit : 1 ≤ limit) :
    ((countedAt position rows offset limit).pagination.hasNext = true ↔
      offset + limit < rows.length + offset % limit) ∧
    (offset + limit < rows.length →
      (countedAt position rows offset limit).pagination.hasNext = true) ∧
    (limit ∣ offset →
      ((countedAt position rows offset limit).pagination.hasNext = true ↔
        offset + limit < rows.length)) := by
  have hnext : (countedAt position rows offset limit).pagination.hasNext = true ↔
      offset + limit < rows.length + offset % limit := by
    simp only [countedAt, ofRows, Nat.max_eq_left hlimit]
    exact Pagination.hasNext_counted hlimit
  refine ⟨hnext, fun hfollows ↦ hnext.2 (Nat.lt_add_right _ hfollows), fun hstart ↦ ?_⟩
  rw [hnext, Nat.mod_eq_zero_of_dvd hstart, Nat.add_zero]

/-- The last page of nine rows, four to a page, announces no successor. -/
theorem hasNext_countedAt_last :
    (1 ≤ 4 ∧ 4 ∣ 8) ∧
      (countedAt Event.position (List.replicate 9 default) 8 4).pagination.hasNext = false := by
  have hlimit : 1 ≤ 4 := by decide
  have hstart : 4 ∣ 8 := by decide
  have hnext := (hasNext_countedAt Event.position (List.replicate 9 default) hlimit).2.2 hstart
  refine ⟨⟨hlimit, hstart⟩, Bool.eq_false_iff.2 fun h ↦ ?_⟩
  exact absurd (hnext.1 h) (by decide)

/-- The last two of nine rows, four to a page, are announced to have a successor when the rows are
counted, and not when they are not. -/
theorem hasNext_countedAt_within :
    ¬7 + 4 < (List.replicate 9 (default : Event)).length ∧
      (countedAt Event.position (List.replicate 9 default) 7 4).pagination.hasNext = true ∧
      (ofRows Event.position (((List.replicate 9 default).drop 7).take 4) 4
        (.offset 7 none)).pagination.hasNext = false := by
  decide

end Page

end EventCatalog
