import EventCatalog.Proofs.Listing

/-!
# Counts and pages

A plan has one pipeline for its pages and another one for its count, made of the same stages.  The
count is the number of rows that the first pipeline delivers when nothing is skipped or cut off.
Sessions are joined for a count only together with the stage that requires them; joining them in any
case would not change a count.

A count stage reports its number as an integer of either width.  So the statements are about stores
in which the number of matching rows is one of 64 bits with a sign.
-/

namespace EventCatalog

open Mongo

/-- Whether a stage takes a slice of the rows. -/
def Stage.isSlice : Stage → Bool
  | skip _ => true
  | limit _ => true
  | _ => false

namespace Mongo

/-- How a count stage reports a number under a name: by no row when there is nothing to count, else
by one row with an integer that holds the number. -/
inductive ReportsCount (name : String) : Nat → List Document → Prop
  | nothing : ReportsCount name 0 []
  | int32 {n : Nat} : 0 < n → n < 2 ^ 31 → ReportsCount name n [[(name, .int32 n)]]
  | int64 {n : Nat} : 0 < n → n < 2 ^ 63 → ReportsCount name n [[(name, .int64 n)]]

/-- Whether some rows are what a counting pipeline over the events may deliver. -/
def Database.MayReport (db : Database) (pipeline rows : List Document) : Prop :=
  ∃ stages name counted, pipeline = stages ++ [[("$count", .string name)]] ∧
    db.aggregate eventsCollection stages = some counted ∧ ReportsCount name counted.length rows

/-- A count is read from the first row that comes back. -/
theorem fetchCount_batch (plan : Plan) (rows : List Document) (later : List Reply) :
    ((fetchCount plan).run (Server.ofReplies (.batch rows none :: later))).1 =
      rows.head?.elim (some 0) total? := by
  cases rows <;> rfl

/-- The number that is read from a report is the number that is reported. -/
theorem total?_of_reportsCount {n : Nat} {rows : List Document} (h : ReportsCount "total" n rows) :
    rows.head?.elim (some 0) total? = some n := by
  cases h with
  | nothing => rfl
  | int32 hpos hfits =>
    apply total?_of_decodeInteger rfl
    rw [Text.max64]
    omega
  | int64 hpos hfits =>
    apply total?_of_decodeInteger rfl
    rw [Text.max64]
    omega

end Mongo

namespace Plan

variable (f : EventFilter) (audience : Audience) (settings : PageSettings)

/-- The plan without its slices: the rows of all pages. -/
def unsliced (p : Plan) : Plan := { p with stages := p.stages.filter (!·.isSlice) }

/-- The counting pipeline that joins sessions whether or not they are required. -/
def joinedCountPipeline (p : Plan) : List Document :=
  (p.stages.filter (Stage.affectsCount true)).map Stage.toDocument ++
    [[("$count", .string "total")]]

/-- The stages of a filter's plan that select rows and join their sessions. -/
def joiningStages (configuredRadius : Option Binary64) (cursor : Option Cursor) : List Stage :=
  [.select (Selection.ofFilter f audience cursor configuredRadius),
    .joinSessions f.sessionWindow] ++
    if f.sessionWindow.isSome then [.requireSessions] else []

theorem filter_skip (keeps : Stage → Bool) (h : ∀ count, keeps (.skip count) = false)
    (offset : Nat) : (if 0 < offset then [Stage.skip offset] else []).filter keeps = [] := by
  split
  · rw [List.filter_singleton, h]
    rfl
  · rfl

theorem stages_unsliced_ofCursor (configuredRadius : Option Binary64) (cursor : Option Cursor) :
    (ofCursor f audience configuredRadius cursor).unsliced.stages =
      joiningStages f audience configuredRadius cursor ++ [.sort f.sortBy f.sortOrder] := by
  have hskip := filter_skip (!·.isSlice) fun _ ↦ rfl
  simp only [unsliced, ofCursor, List.filter_append, hskip, joiningStages]
  cases f.sessionWindow <;> rfl

theorem joinedCountPipeline_ofCursor (configuredRadius : Option Binary64)
    (cursor : Option Cursor) :
    (ofCursor f audience configuredRadius cursor).joinedCountPipeline =
      (joiningStages f audience configuredRadius cursor).map Stage.toDocument ++
        [[("$count", .string "total")]] := by
  have hskip := filter_skip (Stage.affectsCount true) fun _ ↦ rfl
  simp only [joinedCountPipeline, ofCursor, List.filter_append, hskip, joiningStages]
  cases f.sessionWindow <;> rfl

theorem limit_zero_notMem_joiningStages (configuredRadius : Option Binary64)
    (cursor : Option Cursor) :
    Stage.limit 0 ∉ joiningStages f audience configuredRadius cursor := by
  cases hwindow : f.sessionWindow <;> simp [joiningStages, hwindow]

/-- Joining leaves as many rows as match. -/
theorem length_foldl_joiningStages (db : Database) (cursor : Option Cursor) :
    ((joiningStages f audience settings.defaultRadius cursor).foldl
        (fun rows stage ↦ db.carryOut stage rows) (db.documents eventsCollection)).length =
      (f.matching audience settings db (cursor.bind (·.lastId))).length := by
  rw [EventFilter.matching, Document.sorted, List.length_insertionSort, filter_matching,
    joiningStages, List.foldl_append, List.foldl_cons, List.foldl_cons, List.foldl_nil]
  have hrequire := db.foldl_requireSessions f.sessionWindow
    (db.carryOut (.select (Selection.ofFilter f audience cursor settings.defaultRadius))
      (db.documents eventsCollection))
  exact (congrArg List.length hrequire).trans (List.length_map _)

/-- The rows of all pages are as many as match. -/
theorem exists_aggregate_unsliced_ofCursor (db : Database) (cursor : Option Cursor) :
    ∃ rows, db.aggregate eventsCollection
        (ofCursor f audience settings.defaultRadius cursor).unsliced.pipeline = some rows ∧
      rows.length = (f.matching audience settings db (cursor.bind (·.lastId))).length := by
  have hlimit : Stage.limit 0 ∉ joiningStages f audience settings.defaultRadius cursor ++
      [.sort f.sortBy f.sortOrder] := by
    intro hmem
    rcases List.mem_append.1 hmem with hmem | hmem
    · exact limit_zero_notMem_joiningStages f audience _ cursor hmem
    · simp at hmem
  have hrows := db.run_stages hlimit (db.documents eventsCollection)
  rw [← stages_unsliced_ofCursor] at hrows
  refine ⟨_, hrows, ?_⟩
  rw [stages_unsliced_ofCursor, List.foldl_append, List.foldl_cons, List.foldl_nil]
  exact (List.length_insertionSort _ _).trans
    (length_foldl_joiningStages f audience settings db cursor)

/-- Joining sessions that are not required changes no count. -/
theorem aggregate_joinedCountPipeline_ofCursor (db : Database) (cursor : Option Cursor) :
    db.aggregate eventsCollection
        (ofCursor f audience settings.defaultRadius cursor).joinedCountPipeline =
      db.aggregate eventsCollection
        (ofCursor f audience settings.defaultRadius cursor).countPipeline := by
  rw [aggregate_countPipeline_ofCursor, Mongo.Database.aggregate, joinedCountPipeline_ofCursor,
    Mongo.Database.run_append,
    db.run_stages (limit_zero_notMem_joiningStages f audience _ cursor), Option.bind_some,
    run_count, length_foldl_joiningStages]

/-- What the counting pipeline of a filter may deliver reports the number of matching rows. -/
theorem reportsCount_of_mayReport {db : Database} {cursor : Option Cursor} {rows : List Document}
    (h : db.MayReport (ofCursor f audience settings.defaultRadius cursor).countPipeline rows) :
    ReportsCount "total" (f.matching audience settings db (cursor.bind (·.lastId))).length
      rows := by
  obtain ⟨stages, name, counted, hpipeline, hcounted, hreport⟩ := h
  rw [countPipeline_ofCursor] at hpipeline
  obtain ⟨hstages, hlast⟩ := List.append_inj' hpipeline rfl
  have hname : name = "total" := by
    simpa using hlast.symm
  have hlength : counted.length =
      (f.matching audience settings db (cursor.bind (·.lastId))).length := by
    rw [← hstages, Mongo.Database.aggregate,
      db.run_stages (limit_zero_notMem_countStages f audience _ cursor)] at hcounted
    rw [← length_foldl_countStages, Option.some.inj hcounted]
  rw [← hlength, ← hname]
  exact hreport

theorem reportsCount_countRows {n : Nat} (h : n < 2 ^ 63) :
    ReportsCount "total" n (countRows n) := by
  rw [countRows]
  split
  next hzero =>
    rw [hzero]
    exact .nothing
  next hne =>
    have hpos : 0 < n := Nat.pos_of_ne_zero hne
    rw [countValue, Bson.maxInt64]
    split
    next hsmall => exact .int32 hpos hsmall
    next hlarge =>
      rw [if_pos (Nat.le_of_lt_succ h)]
      exact .int64 hpos h

theorem mayReport_countRows (db : Database) (cursor : Option Cursor)
    (h : (f.matching audience settings db (cursor.bind (·.lastId))).length < 2 ^ 63) :
    db.MayReport (ofCursor f audience settings.defaultRadius cursor).countPipeline
      (countRows (f.matching audience settings db (cursor.bind (·.lastId))).length) := by
  refine ⟨_, "total", _, countPipeline_ofCursor f audience settings.defaultRadius cursor,
    db.run_stages (limit_zero_notMem_countStages f audience _ cursor) _, ?_⟩
  rw [length_foldl_countStages]
  exact reportsCount_countRows h

theorem sessionWindow_of_mem_stages {configuredRadius : Option Binary64} {cursor : Option Cursor}
    {window : Option SessionWindow}
    (h : .joinSessions window ∈ (ofCursor f audience configuredRadius cursor).stages) :
    f.sessionWindow = window := by
  have hwindow : window = f.sessionWindow := by simpa [ofCursor] using h
  exact hwindow.symm

/-- Counting keeps the join of a window, right in front of the stage that requires sessions. -/
theorem joinSessions_infix_countPipeline {configuredRadius : Option Binary64}
    {cursor : Option Cursor} {window : SessionWindow} (h : f.sessionWindow = some window) :
    [(Stage.joinSessions (some window)).toDocument, Stage.requireSessions.toDocument] <:+:
      (ofCursor f audience configuredRadius cursor).countPipeline := by
  rw [countPipeline_ofCursor, countStages, h]
  exact ⟨[Stage.toDocument (.select _)], [[("$count", .string "total")]], rfl⟩

/-- The count of a plan is the number of rows of all its pages.  It is read from whatever report the
database makes of it, and from the one that the database here makes.  A join without a window is
dropped for the count, which changes nothing; one with a window stays with its requirement. -/
theorem fetchCount_eq_length_unsliced (f : EventFilter) (audience : Audience)
    (settings : PageSettings) (plan : Plan) (hplan : ofFilter f audience settings = .ok plan)
    (db : Database) :
    ∃ rows n, db.aggregate eventsCollection plan.unsliced.pipeline = some rows ∧
      rows.length = n ∧
      (∀ report later, db.MayReport plan.countPipeline report →
        ((fetchCount plan).run (Server.ofReplies (.batch report none :: later))).1 = some n) ∧
      (n < 2 ^ 63 → db.MayReport plan.countPipeline (countRows n) ∧
        db.answer (.fetchCount plan) = (some n : Option Nat)) ∧
      db.aggregate eventsCollection plan.joinedCountPipeline =
        db.aggregate eventsCollection plan.countPipeline ∧
      ∀ window, .joinSessions (some window) ∈ plan.stages →
        [(Stage.joinSessions (some window)).toDocument, Stage.requireSessions.toDocument] <:+:
          plan.countPipeline := by
  obtain ⟨cursor, -, rfl⟩ := exists_cursor_of_ofFilter f audience settings hplan
  obtain ⟨rows, hrows, hlength⟩ :=
    exists_aggregate_unsliced_ofCursor f audience settings db cursor
  refine ⟨rows, _, hrows, hlength, ?_, ?_,
    aggregate_joinedCountPipeline_ofCursor f audience settings db cursor, ?_⟩
  · intro report later hreport
    rw [fetchCount_batch]
    exact total?_of_reportsCount (reportsCount_of_mayReport f audience settings hreport)
  · intro hsmall
    constructor
    · exact mayReport_countRows f audience settings db cursor hsmall
    · rw [db.answer_fetchCount (aggregate_countPipeline_ofCursor f audience settings db cursor)]
      exact total?_of_reportsCount (reportsCount_countRows hsmall)
  · intro window hwindow
    apply joinSessions_infix_countPipeline
    exact sessionWindow_of_mem_stages f audience hwindow

/-- Three events, of whose sessions none, one and two start at the epoch or later. -/
def attended : Database where
  documents name :=
    if name = eventsCollection then
      [⟨1⟩, ⟨2⟩, ⟨3⟩].map fun id ↦
        [("_id", .ofUuid id), ("location", .document [("coordinates", .array [])])]
    else
      [(⟨4⟩, ⟨1⟩, -5000), (⟨5⟩, ⟨2⟩, 0), (⟨6⟩, ⟨3⟩, 10), (⟨7⟩, ⟨3⟩, 999)].map
        fun (id, event, start) ↦
          [("_id", .ofUuid id), ("event_id", .ofUuid event), ("start_time", .date start)]
  matchesPattern _ _ _ := false
  liesWithin _ _ := false

/-- A page behind the last event with a session at the epoch or later. -/
def sinceEpoch : EventFilter :=
  { EventFilter.everything with
    sessionWindow := some ⟨some .epoch, none⟩
    limit := 1
    offset := 5 }

theorem fetchCount_attended :
    ∃ plan, ofFilter sinceEpoch .console .standard = .ok plan ∧
      attended.answer (.fetchCount plan) = (some 2 : Option Nat) := by
  have hplan := ofFilter_eq sinceEpoch .console .standard
    (show cursorOf sinceEpoch = .ok none from rfl)
  obtain ⟨rows, n, hrows, hlength, -, hcount, -⟩ :=
    fetchCount_eq_length_unsliced sinceEpoch .console .standard _ hplan attended
  have hall : (attended.aggregate eventsCollection (ofCursor sinceEpoch .console
      PageSettings.standard.defaultRadius none).unsliced.pipeline).map List.length = some 2 := by
    rfl
  rw [hrows, Option.map_some, Option.some.injEq] at hall
  have hn : n = 2 := hlength.symm.trans hall
  subst hn
  exact ⟨_, hplan, (hcount (by decide)).2⟩

end Plan

end EventCatalog
