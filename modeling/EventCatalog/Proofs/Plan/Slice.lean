import EventCatalog.Proofs.Plan.Count
import EventCatalog.Proofs.Query.Parameters

/-!
# Bounded fetches

A plan fetches a slice of its sorted rows: at most as many as its page has, and one more when it
follows a token.  The page size is within the bounds of the settings, and no number on the way from
a query to the pipeline wraps around: each one stops at the largest number of its type.
-/

namespace EventCatalog

/-- Whether a pipeline ends by sorting its rows, skipping some where it says how many, and keeping
so many of the rest, while all it does before is to select rows and to join others to them. -/
def Mongo.TakesSlice (pipeline : List Document) (skipped : Option Nat) (kept : Nat) : Prop :=
  ∃ (front : List Document) (order : Bson),
    pipeline = front ++ [[("$sort", order)]] ++
      (skipped.map fun n : Nat ↦ [("$skip", Bson.int64 n)]).toList ++ [[("$limit", .int64 kept)]] ∧
    ∀ stage ∈ front, ∃ value, stage = [("$match", value)] ∨ stage = [("$lookup", value)]

/-- A page holds at least one row and at most as many as the settings allow. -/
theorem PageSettings.pageSize_bounds (settings : PageSettings) (requested : Option Nat) :
    1 ≤ settings.pageSize requested ∧
      settings.pageSize requested ≤ max 1 settings.maxPageSize := by
  rw [pageSize]
  omega

namespace Plan

section Slice

variable {f : EventFilter} {audience : Audience} {configuredRadius : Option Binary64}

theorem toDocument_of_mem_joiningStages {cursor : Option Cursor} {stage : Stage}
    (h : stage ∈ joiningStages f audience configuredRadius cursor) :
    ∃ value, stage.toDocument = [("$match", value)] ∨ stage.toDocument = [("$lookup", value)] := by
  simp only [joiningStages, List.mem_append, List.mem_cons, List.not_mem_nil, or_false] at h
  obtain (rfl | rfl) | hrequired := h
  · exact ⟨_, .inl rfl⟩
  · exact ⟨_, .inr rfl⟩
  · split at hrequired
    · rw [List.mem_singleton.1 hrequired]
      exact ⟨_, .inl rfl⟩
    · cases hrequired

/-- Stages that select, join, sort, skip and keep rows in this order take a slice, with the largest
integer for all numbers beyond it. -/
theorem takesSlice_of_stages {plan : Plan} {cursor : Option Cursor} {field : SortField}
    {order : SortOrder} {offset kept : Nat}
    (h : plan.stages = joiningStages f audience configuredRadius cursor ++ [.sort field order] ++
      (if 0 < offset then [.skip offset] else []) ++ [.limit kept]) :
    Mongo.TakesSlice plan.pipeline
      (if offset = 0 then none else some (min offset Bson.maxInt64)) (min kept Bson.maxInt64) := by
  have hskip : (if 0 < offset then [Stage.skip offset] else []).map Stage.toDocument =
      ((if offset = 0 then none else some (min offset Bson.maxInt64)).map
        fun n : Nat ↦ [("$skip", Bson.int64 n)]).toList := by
    cases offset with
    | zero => rfl
    | succ offset => rfl
  refine ⟨(joiningStages f audience configuredRadius cursor).map Stage.toDocument,
    .document [(field.name, .int32 order.direction), ("_id", .int32 order.direction)], ?_, ?_⟩
  · rw [pipeline, h, List.map_append, List.map_append, List.map_append, hskip]
    rfl
  · rw [List.forall_mem_map]
    exact fun stage ↦ toDocument_of_mem_joiningStages

/-- A plan takes the slice of its page, without rows to skip and with one row more to keep where it
follows a cursor. -/
theorem takesSlice_ofCursor (hlimit : 1 ≤ f.limit) (cursor : Option Cursor) :
    Mongo.TakesSlice (ofCursor f audience configuredRadius cursor).pipeline
      (if cursor.isSome ∨ f.offset = 0 then none else some (min f.offset Bson.maxInt64))
      (min (if cursor.isSome then f.limit + 1 else f.limit) Bson.maxInt64) := by
  have hmax : max f.limit 1 = f.limit := Nat.max_eq_left hlimit
  cases cursor with
  | none =>
    have hslice : Mongo.TakesSlice (ofCursor f audience configuredRadius none).pipeline
        (if f.offset = 0 then none else some (min f.offset Bson.maxInt64))
        (min (max f.limit 1) Bson.maxInt64) := takesSlice_of_stages rfl
    rw [hmax] at hslice
    simpa using hslice
  | some c =>
    have hslice : Mongo.TakesSlice (ofCursor f audience configuredRadius (some c)).pipeline
        (if 0 = 0 then none else some (min 0 Bson.maxInt64))
        (min (min (max f.limit 1 + 1) Text.max64) Bson.maxInt64) := takesSlice_of_stages rfl
    -- One more than the largest page stops at 64 bits, which is beyond what is kept anyway.
    have hkept : min (min (max f.limit 1 + 1) Text.max64) Bson.maxInt64 =
        min (f.limit + 1) Bson.maxInt64 := by
      rw [hmax, Text.max64, Bson.maxInt64]
      omega
    rw [hkept] at hslice
    simpa using hslice

end Slice

end Plan

namespace EventQuery

variable {q : EventQuery} {settings : PageSettings} {f : EventFilter}

/-- Every listing fetches a bounded slice.  The size of a page is at least one and at most that of
the settings; a page number stands for the rows in front of that page; and the pipeline keeps a
positive number of rows, behind a sort and behind the rows that it skips along an offset. -/
theorem toFilter_takesSlice (hfilter : q.toFilter settings = .ok f) (audience : Audience) :
    (1 ≤ f.limit ∧ f.limit ≤ max 1 settings.maxPageSize) ∧
    (∀ page, q.page = some page →
      f.offset = min ((max page 1 - 1) * f.limit) (2 ^ 64 - 1)) ∧
    ∀ plan, Plan.ofFilter f audience settings = .ok plan →
      ∃ kept, 0 < kept ∧ kept < 2 ^ 63 ∧
        kept = min (if plan.isCursorMode then f.limit + 1 else f.limit) (2 ^ 63 - 1) ∧
        Mongo.TakesSlice plan.pipeline
          (if plan.isCursorMode ∨ f.offset = 0 then none else some (min f.offset (2 ^ 63 - 1)))
          kept := by
  have hlimit : 1 ≤ f.limit ∧ f.limit ≤ max 1 settings.maxPageSize := by
    rw [limit_toFilter hfilter]
    exact settings.pageSize_bounds _
  refine ⟨hlimit, fun page hpage ↦ (start_toFilter_of_page hfilter hpage).1, fun plan hplan ↦ ?_⟩
  obtain ⟨cursor, -, rfl⟩ := Plan.exists_cursor_of_ofFilter f audience settings hplan
  refine ⟨_, ?_, ?_, rfl, Plan.takesSlice_ofCursor hlimit.1 cursor⟩
  · split <;> omega
  · omega

/-- Settings that allow pages of any size. -/
def boundless : PageSettings := ⟨0, 2 ^ 64 - 1, none⟩

/-- Where the largest numbers are asked for, the largest ones are fetched. -/
theorem toFilter_takesSlice_boundless :
    (∃ f plan, { (default : EventQuery) with
          limit := some (2 ^ 64 - 1)
          page := some 3 }.toFilter boundless = .ok f ∧
      f.offset = 2 ^ 64 - 1 ∧ Plan.ofFilter f .everyone boundless = .ok plan ∧
      Mongo.TakesSlice plan.pipeline (some (2 ^ 63 - 1)) (2 ^ 63 - 1)) ∧
    ∃ f plan, { (default : EventQuery) with
          limit := some (2 ^ 63 - 1)
          offset := some 1
          pageToken := some "e30=" }.toFilter boundless = .ok f ∧
      Plan.ofFilter f .console boundless = .ok plan ∧
      Mongo.TakesSlice plan.pipeline none (2 ^ 63 - 1) := by
  let numbered : EventQuery :=
    { (default : EventQuery) with limit := some (2 ^ 64 - 1), page := some 3 }
  let followed : EventQuery :=
    { (default : EventQuery) with
      limit := some (2 ^ 63 - 1)
      offset := some 1
      pageToken := some "e30=" }
  constructor
  · obtain ⟨f, hfilter⟩ : ∃ f, numbered.toFilter boundless = .ok f := ⟨_, rfl⟩
    obtain ⟨plan, hplan⟩ : ∃ plan, Plan.ofFilter f .everyone boundless = .ok plan := by
      cases hfilter
      exact ⟨_, rfl⟩
    obtain ⟨-, hoffset, hslice⟩ := toFilter_takesSlice hfilter .everyone
    obtain ⟨kept, -, -, hkept, hpipeline⟩ := hslice plan hplan
    cases hfilter
    cases hplan
    obtain rfl : kept = 2 ^ 63 - 1 := hkept
    exact ⟨_, _, rfl, hoffset 3 rfl, rfl, hpipeline⟩
  · obtain ⟨f, hfilter⟩ : ∃ f, followed.toFilter boundless = .ok f := ⟨_, rfl⟩
    obtain ⟨plan, hplan⟩ : ∃ plan, Plan.ofFilter f .console boundless = .ok plan := by
      cases hfilter
      exact ⟨_, rfl⟩
    obtain ⟨-, -, hslice⟩ := toFilter_takesSlice hfilter .console
    obtain ⟨kept, -, -, hkept, hpipeline⟩ := hslice plan hplan
    cases hfilter
    cases hplan
    obtain rfl : kept = 2 ^ 63 - 1 := hkept
    exact ⟨_, _, rfl, rfl, hpipeline⟩

end EventQuery

end EventCatalog
