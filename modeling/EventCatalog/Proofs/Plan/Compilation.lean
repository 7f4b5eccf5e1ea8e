import EventCatalog.Proofs.Cursor
import EventCatalog.Proofs.Except
import EventCatalog.Proofs.Plan.Meaning

/-!
# Plans keep the meaning of filters

The pipeline of a filter's plan delivers the rows of the reference: stages that come after the join
look at the joined rows, but decide as they would have done before it.
-/

namespace EventCatalog

open Mongo

namespace Selection

/-- The selection of a filter holds its criteria and the boundary of its token. -/
theorem admits_ofFilter (f : EventFilter) (audience : Audience) (settings : PageSettings)
    (cursor : Option Cursor) (db : Database) (d : Document) :
    (ofFilter f audience cursor settings.defaultRadius).admits db d =
      (f.admits audience settings db d &&
        (cursor.bind (·.lastId)).all (f.sortOrder.isBeyond · d)) := by
  simp only [admits, admitsId, ofFilter, EventFilter.admits, EventFilter.wantedStatus,
    EventFilter.wantedVisibility, EventFilter.wantedArea, Option.all_map]
  ac_rfl

end Selection

namespace Mongo.Database

variable (db : Database) (window : Option SessionWindow)

theorem get?_withSessions {name : String} (h : name ≠ "sessions") (d : Document) :
    (db.withSessions window d).get? name = d.get? name :=
  Document.get?_set_ne h d _

/-- Joined sessions take no part in a sort by other fields. -/
theorem rank_withSessions (order : SortOrder) {names : List String} (h : "sessions" ∉ names)
    (d : Document) : (db.withSessions window d).rank order names = d.rank order names := by
  refine List.map_congr_left fun name hname ↦ ?_
  have hne : name ≠ "sessions" := fun heq ↦ h (heq ▸ hname)
  rw [Document.sortKey, Document.sortKey, db.get?_withSessions window hne]

theorem sorted_map_withSessions (order : SortOrder) {names : List String} (h : "sessions" ∉ names)
    (rows : List Document) :
    Document.sorted order names (rows.map (db.withSessions window)) =
      (Document.sorted order names rows).map (db.withSessions window) := by
  refine (List.map_insertionSort _ _ _ _ fun a _ b _ ↦ ?_).symm
  rw [db.rank_withSessions window order h, db.rank_withSessions window order h]

/-- The joined sessions are no empty array exactly when there are some. -/
theorem has_withSessions (d : Document) :
    (db.withSessions window d).has "sessions" (.array []) = (db.sessionsOf window d).isEmpty := by
  have hget : (db.withSessions window d).get? "sessions" =
      some (.array ((db.sessionsOf window d).map .document)) := Document.get?_set_self _ _ _
  rw [Document.has, Document.offered, hget]
  cases db.sessionsOf window d with
  | nil => simp [Bson.offered]
  | cons s sessions => simp [Bson.offered, Bson.key, Bson.itemsKey]

/-- Dropping joined rows without sessions is dropping events without sessions. -/
theorem foldl_requireSessions (rows : List Document) :
    (if window.isSome then [Stage.requireSessions] else []).foldl
        (fun rows stage ↦ db.carryOut stage rows) (rows.map (db.withSessions window)) =
      (rows.filter fun d ↦ window.all fun w ↦ !(db.sessionsOf (some w) d).isEmpty).map
        (db.withSessions window) := by
  cases window with
  | none => simp
  | some w =>
    simp only [Option.isSome_some, if_true, List.foldl_cons, List.foldl_nil, carryOut,
      List.filter_map, Function.comp_def, has_withSessions, Option.all_some]

theorem foldl_skip (offset : Nat) (rows : List Document) :
    (if 0 < offset then [Stage.skip offset] else []).foldl
        (fun rows stage ↦ db.carryOut stage rows) rows =
      rows.drop (min offset Bson.maxInt64) := by
  split
  next hpos => rfl
  next hzero => simp [Nat.eq_zero_of_not_pos hzero]

end Mongo.Database

namespace Plan

open Mongo.Database

variable (f : EventFilter) (audience : Audience) (settings : PageSettings)

theorem limit_zero_notMem_ofCursor (configuredRadius : Option Binary64) (cursor : Option Cursor) :
    Stage.limit 0 ∉ (ofCursor f audience configuredRadius cursor).stages := by
  intro h
  have hzero : 0 = if cursor.isSome then min (max f.limit 1 + 1) Text.max64 else max f.limit 1 := by
    simpa [ofCursor] using h
  rw [Text.max64] at hzero
  split at hzero <;> omega

/-- The matching rows are those that the selection leaves and that have sessions where needed. -/
theorem filter_matching (cursor : Option Cursor) (db : Database) (rows : List Document) :
    (rows.filter fun d ↦ f.admits audience settings db d &&
        (cursor.bind (·.lastId)).all (f.sortOrder.isBeyond · d) && f.admitsSessions db d) =
      (rows.filter
        ((Selection.ofFilter f audience cursor settings.defaultRadius).admits db)).filter
        fun d ↦ f.sessionWindow.all fun w ↦ !(db.sessionsOf (some w) d).isEmpty := by
  simp only [List.filter_filter, Selection.admits_ofFilter, EventFilter.admitsSessions,
    Bool.and_comm]

/-- The stages of a plan make the rows of the reference out of all events. -/
theorem foldl_ofCursor (cursor : Option Cursor) (db : Database) :
    (ofCursor f audience settings.defaultRadius cursor).stages.foldl
        (fun rows stage ↦ db.carryOut stage rows) (db.documents eventsCollection) =
      f.reference audience settings db cursor := by
  have hnames : "sessions" ∉ [f.sortBy.name, "_id"] := by
    cases f.sortBy <;> decide
  simp only [ofCursor, List.foldl_append, List.foldl_cons, List.foldl_nil]
  -- The join comes before the sort, which does not look at sessions: so the two change places.
  rw [carryOut, carryOut, foldl_requireSessions, foldl_skip, carryOut, carryOut,
    sorted_map_withSessions _ _ _ hnames]
  rw [EventFilter.reference, EventFilter.matching, filter_matching, EventFilter.fetched]
  cases cursor with
  | none =>
    simp only [Option.isSome_none, Bool.false_eq_true, if_false, List.map_take, List.map_drop]
  | some c =>
    have hlimit : min (min (max f.limit 1 + 1) Text.max64) Bson.maxInt64 =
        min (max f.limit 1 + 1) Bson.maxInt64 := by
      rw [Text.max64, Bson.maxInt64]
      omega
    simp only [Option.isSome_some, if_true, hlimit, Nat.zero_min, List.drop_zero, List.map_take]

theorem aggregate_pipeline_ofCursor (db : Database) (cursor : Option Cursor) :
    db.aggregate eventsCollection (ofCursor f audience settings.defaultRadius cursor).pipeline =
      some (f.reference audience settings db cursor) := by
  rw [Mongo.Database.aggregate, pipeline,
    run_stages _ (limit_zero_notMem_ofCursor f audience _ cursor), foldl_ofCursor]

theorem ofFilter_eq {cursor : Option Cursor} (h : cursorOf f = .ok cursor) :
    ofFilter f audience settings = .ok (ofCursor f audience settings.defaultRadius cursor) := by
  rw [ofFilter, h]
  rfl

theorem exists_cursor_of_ofFilter {plan : Plan} (h : ofFilter f audience settings = .ok plan) :
    ∃ cursor, cursorOf f = .ok cursor ∧
      plan = ofCursor f audience settings.defaultRadius cursor := by
  rw [ofFilter] at h
  obtain ⟨cursor, hcursor, h⟩ := bind_eq_ok_iff.1 h
  exact ⟨cursor, hcursor, (Except.ok.inj h).symm⟩

/-- A token is followed from where it was made. -/
theorem cursorOf_of_encode {cursor : Cursor} (h : f.pageToken = some cursor.encode) :
    cursorOf f = .ok (some cursor.asPrinted) := by
  rw [cursorOf, h]
  simp only [Cursor.decode_encode]

/-- A database with one event and one session, which is that of another event. -/
def single : Database where
  documents name :=
    if name = eventsCollection then
      [[("_id", .ofUuid ⟨2⟩), ("location", .document [("coordinates", .array [])])]]
    else [[("_id", .ofUuid ⟨3⟩), ("event_id", .ofUuid ⟨1⟩)]]
  matchesPattern _ _ _ := false
  liesWithin _ _ := false

/-- The events behind the first one. -/
def behindFirst : EventFilter :=
  { EventFilter.everything with
    sortOrder := .ascending
    pageToken := some (Cursor.encode ⟨some ⟨1⟩, .epoch⟩) }

/-- The rows that a count of `n` rows delivers. -/
def countRows (n : Nat) : List Document :=
  if n = 0 then [] else [[("total", countValue n)]]

/-- The stages that have a part in a count. -/
def countStages (configuredRadius : Option Binary64) (cursor : Option Cursor) : List Stage :=
  .select (Selection.ofFilter f audience cursor configuredRadius) ::
    if f.sessionWindow.isSome then [.joinSessions f.sessionWindow, .requireSessions] else []

/-- Sessions are joined for a count only where an event without them does not count. -/
theorem countPipeline_ofCursor (configuredRadius : Option Binary64) (cursor : Option Cursor) :
    (ofCursor f audience configuredRadius cursor).countPipeline =
      (countStages f audience configuredRadius cursor).map Stage.toDocument ++
        [[("$count", .string "total")]] := by
  have hcontains : (ofCursor f audience configuredRadius cursor).stages.contains
      .requireSessions = f.sessionWindow.isSome := by
    rw [List.contains_eq_mem]
    cases hwindow : f.sessionWindow <;> simp [ofCursor, hwindow]
  have hskip : ∀ offset : Nat, (if 0 < offset then [Stage.skip offset] else []).filter
      (Stage.affectsCount f.sessionWindow.isSome) = [] := by
    intro offset
    split <;> rfl
  rw [countPipeline, hcontains]
  refine congrArg (fun stages ↦ List.map Stage.toDocument stages ++ _) ?_
  simp only [ofCursor, List.filter_append, hskip]
  cases hwindow : f.sessionWindow with
  | none =>
    rw [countStages, hwindow]
    rfl
  | some w =>
    rw [countStages, hwindow]
    rfl

/-- Counting stages leave as many rows as match, whatever page is asked for. -/
theorem length_foldl_countStages (db : Database) (cursor : Option Cursor) :
    ((countStages f audience settings.defaultRadius cursor).foldl
        (fun rows stage ↦ db.carryOut stage rows) (db.documents eventsCollection)).length =
      (f.matching audience settings db (cursor.bind (·.lastId))).length := by
  rw [EventFilter.matching, Document.sorted, List.length_insertionSort, filter_matching,
    countStages, List.foldl_cons]
  have hrequire := db.foldl_requireSessions f.sessionWindow
  cases hwindow : f.sessionWindow with
  | none => simp [carryOut]
  | some w =>
    rw [hwindow] at hrequire
    have hlast := congrArg List.length (hrequire (db.carryOut
      (.select (Selection.ofFilter f audience cursor settings.defaultRadius))
      (db.documents eventsCollection)))
    rw [List.length_map] at hlast
    exact hlast

theorem limit_zero_notMem_countStages (configuredRadius : Option Binary64)
    (cursor : Option Cursor) :
    Stage.limit 0 ∉ countStages f audience configuredRadius cursor := by
  cases hwindow : f.sessionWindow <;> simp [countStages, hwindow]

theorem run_count (db : Database) (rows : List Document) :
    db.run rows [[("$count", .string "total")]] = some (countRows rows.length) := by
  cases rows with
  | nil => rfl
  | cons d rows => simp [run, step, countRows]

/-- The count of a filter's plan is the number of its matching rows, whatever page is asked for. -/
theorem aggregate_countPipeline_ofCursor (db : Database) (cursor : Option Cursor) :
    db.aggregate eventsCollection
        (ofCursor f audience settings.defaultRadius cursor).countPipeline =
      some (countRows (f.matching audience settings db (cursor.bind (·.lastId))).length) := by
  rw [Mongo.Database.aggregate, countPipeline_ofCursor, run_append,
    run_stages _ (limit_zero_notMem_countStages f audience _ cursor), Option.bind_some, run_count,
    length_foldl_countStages]

end Plan

end EventCatalog
