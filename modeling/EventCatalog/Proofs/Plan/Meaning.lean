import EventCatalog.Proofs.Bson.Document
import EventCatalog.Proofs.Plan.Reference

/-!
# What the stages of a plan mean

Every stage of a plan, rendered and carried out by the database, does to the rows what its name
says.  A whole plan then is the composition of its stages, and for a plan made from a filter this is
the reference.
-/

namespace EventCatalog

namespace Mongo

theorem both_some (p q : Bool) : both (some p) (some q) = some (p && q) := rfl

@[simp]
theorem conjunction_nil : conjunction [] = some true := rfl

theorem conjunction_cons_some {c : Option Bool} {cs : List (Option Bool)} {p q : Bool}
    (hc : c = some p) (hcs : conjunction cs = some q) :
    conjunction (c :: cs) = some (p && q) := by
  rw [hc]
  change both (some p) (conjunction cs) = _
  rw [hcs, both_some]

theorem conjunction_append {cs ds : List (Option Bool)} {p q : Bool}
    (hcs : conjunction cs = some p) (hds : conjunction ds = some q) :
    conjunction (cs ++ ds) = some (p && q) := by
  induction cs generalizing p with
  | nil =>
    rw [conjunction_nil, Option.some.injEq] at hcs
    rw [List.nil_append, hds, ← hcs, Bool.true_and]
  | cons c cs ih =>
    change both c (conjunction cs) = some p at hcs
    cases c with
    | none => simp [both] at hcs
    | some a =>
      cases htail : conjunction cs with
      | none => simp [both, htail] at hcs
      | some b =>
        rw [htail, both_some, Option.some.injEq] at hcs
        rw [List.cons_append, conjunction_cons_some rfl (ih htail), ← hcs, Bool.and_assoc]

namespace Database

variable {db : Database} {bindings : Bindings} {d : Document}

theorem acceptsMember_field {name : String} (h : isOperator name = false) (condition : Bson) :
    db.acceptsMember bindings d name condition = db.acceptsAt d name condition := by
  unfold acceptsMember
  split
  · exact absurd h (by decide)
  · exact absurd h (by decide)
  · rw [h]
    rfl

theorem valuesAt_single (name : String) (d : Document) :
    Bson.valuesAt [name] (.document d) = (d.get? name).toList := by
  simp [Bson.valuesAt, Bson.children]

/-- Equality with a text that is no operator. -/
theorem acceptsAt_string {name : String} (h : pathOf name = [name]) (s : String) :
    db.acceptsAt d name (.string s) = some (d.has name (.string s)) := by
  simp [acceptsAt, h, valuesAt_single, equals, Bson.isNull, Document.has, Document.offered]

/-- A document of operators is their conjunction. -/
theorem acceptsAt_operators {name : String} {operators : Document} (hne : operators ≠ [])
    (h : ∀ m ∈ operators, isOperator m.1 = true) :
    db.acceptsAt d name (.document operators) =
      conjunction (operators.map fun m ↦
        db.satisfies operators (Bson.valuesAt (pathOf name) (.document d)) m.1 m.2) := by
  cases operators with
  | nil => exact absurd rfl hne
  | cons m rest =>
    have hm := h m List.mem_cons_self
    simp only [acceptsAt, hm, if_true]

theorem fst_eq_of_mem_condition {name : String} {value : Option α} {render : α → Bson}
    {m : String × Bson} (h : m ∈ Selection.condition name value render) : m.1 = name := by
  cases value with
  | none => simp [Selection.condition] at h
  | some a =>
    rw [Selection.condition, List.mem_singleton] at h
    rw [h]

/-- A condition that may be absent is one on the value that it has. -/
theorem conjunction_condition {name : String} {value : Option α} {render : α → Bson}
    {p : α → Bool} {meaning : String × Bson → Option Bool}
    (h : ∀ a, meaning (name, render a) = some (p a)) :
    conjunction ((Selection.condition name value render).map meaning) = some (value.all p) := by
  cases value with
  | none => rfl
  | some a => exact (conjunction_cons_some (h a) conjunction_nil).trans (by rw [Bool.and_true]; rfl)

theorem accepts_append {c e : Document} {p q : Bool} (hc : db.accepts bindings c d = some p)
    (he : db.accepts bindings e d = some q) :
    db.accepts bindings (c ++ e) d = some (p && q) := by
  rw [accepts, List.map_append]
  exact conjunction_append hc he

theorem accepts_single {name : String} {v : Bson} {p : Bool}
    (h : db.acceptsMember bindings d name v = some p) :
    db.accepts bindings [(name, v)] d = some p := by
  rw [accepts, List.map_singleton]
  exact (conjunction_cons_some h conjunction_nil).trans (by rw [Bool.and_true])

theorem accepts_condition {name : String} {value : Option α} {render : α → Bson} {p : α → Bool}
    (h : ∀ a, db.acceptsMember bindings d name (render a) = some (p a)) :
    db.accepts bindings (Selection.condition name value render) d = some (value.all p) :=
  conjunction_condition h

end Database

end Mongo

namespace Selection

open Mongo Database

variable {db : Database} {bindings : Bindings} {d : Document}

theorem equals_ofUuid (name : String) (id : Uuid) (d : Document) :
    equals (d.get? name).toList (.ofUuid id) = d.has name (.ofUuid id) := by
  simp [equals, Bson.ofUuid, Bson.isNull, Document.has, Document.offered]

theorem compares_ofUuid (name : String) (id : Uuid) (d : Document)
    (asked : List Int → List Int → Bool) :
    compares (d.get? name).toList (.ofUuid id) asked =
      some (d.hasSuch name (.ofUuid id) asked) := by
  simp [compares, Bson.ofUuid, Document.hasSuch, Document.offered]

theorem compares_ofInstant (name : String) (t : Instant) (d : Document)
    (asked : List Int → List Int → Bool) :
    compares (d.get? name).toList (.ofInstant t) asked =
      some (d.hasSuch name (.ofInstant t) asked) := by
  simp [compares, Bson.ofInstant, Document.hasSuch, Document.offered]

/-- Whether a document satisfies the conditions on its identifier. -/
def admitsId (s : Selection) (d : Document) : Bool :=
  s.eventId.all (fun id ↦ d.has "_id" (.ofUuid id)) && s.boundary.all fun b ↦ b.1.isBeyond b.2 d

/-- Whether a document satisfies all conditions of a selection. -/
def admits (db : Database) (s : Selection) (d : Document) : Bool :=
  s.tenantId.all (fun t ↦ d.has "tenant_id" (.string t)) &&
    s.status.all (fun v ↦ d.has "status" (.string v.name)) &&
    s.visibility.all (fun v ↦ d.has "visibility" (.string v.name)) && s.admitsId d &&
    s.search.all (fun text ↦ db.findsIn "title" text d || db.findsIn "detail" text d) &&
    s.area.all (fun a ↦ (d.get? "location").any (db.liesWithin a)) && d.hasCoordinates

theorem satisfies_eq (operators : Document) (id : Uuid) :
    db.satisfies operators (d.get? "_id").toList "$eq" (.ofUuid id) =
      some (d.has "_id" (.ofUuid id)) := by
  rw [← equals_ofUuid]
  rfl

theorem satisfies_boundary (operators : Document) (order : SortOrder) (id : Uuid) :
    db.satisfies operators (d.get? "_id").toList order.boundaryOperator (.ofUuid id) =
      some (order.isBeyond id d) := by
  have hbeyond : db.satisfies operators (d.get? "_id").toList order.boundaryOperator (.ofUuid id) =
      compares (d.get? "_id").toList (.ofUuid id) fun w v ↦ order.lt v w := by
    cases order with
    | ascending =>
      have hasked : (fun w v : List Int ↦ decide (v < w)) =
          fun w v ↦ decide (SortOrder.ascending.lt v w) :=
        funext₂ fun w v ↦ decide_eq_decide.2 Iff.rfl
      exact congrArg (compares (d.get? "_id").toList (.ofUuid id)) hasked
    | descending =>
      have hasked : (fun w v : List Int ↦ decide (w < v)) =
          fun w v ↦ decide (SortOrder.descending.lt v w) :=
        funext₂ fun w v ↦ decide_eq_decide.2 Iff.rfl
      exact congrArg (compares (d.get? "_id").toList (.ofUuid id)) hasked
  rw [hbeyond]
  exact compares_ofUuid "_id" id d fun w v ↦ order.lt v w

theorem isOperator_boundaryOperator (order : SortOrder) :
    isOperator order.boundaryOperator = true := by
  cases order <;> decide

/-- An equality and a boundary on the identifier hold together. -/
theorem conjunction_idConditions (s : Selection) (operators : Document) :
    conjunction (s.idConditions.map fun m ↦
      db.satisfies operators (d.get? "_id").toList m.1 m.2) = some (s.admitsId d) := by
  unfold idConditions
  rw [List.map_append]
  refine conjunction_append (conjunction_condition fun id ↦ satisfies_eq operators id) ?_
  cases s.boundary with
  | none => rfl
  | some b =>
    have hboundary : db.satisfies operators (d.get? "_id").toList b.1.boundaryOperator
        (.ofUuid b.2) = some (b.1.isBeyond b.2 d) := satisfies_boundary operators b.1 b.2
    exact (conjunction_cons_some hboundary conjunction_nil).trans (by rw [Bool.and_true]; rfl)

theorem isOperator_idConditions (s : Selection) : ∀ m ∈ s.idConditions, isOperator m.1 = true := by
  intro m hm
  rcases List.mem_append.1 hm with hm | hm
  · rw [fst_eq_of_mem_condition hm]
    decide
  · cases hboundary : s.boundary with
    | none => simp [hboundary] at hm
    | some b =>
      simp only [hboundary, List.mem_singleton] at hm
      rw [hm]
      exact isOperator_boundaryOperator b.1

theorem accepts_idConditions (s : Selection) :
    db.accepts bindings
      (if s.idConditions.isEmpty then [] else [("_id", .document s.idConditions)]) d =
        some (s.admitsId d) := by
  have hpath : pathOf "_id" = ["_id"] := by decide
  have hmeaning : conjunction (s.idConditions.map fun m ↦
      db.satisfies s.idConditions (d.get? "_id").toList m.1 m.2) = some (s.admitsId d) :=
    conjunction_idConditions s s.idConditions
  by_cases hempty : s.idConditions = []
  · rw [hempty] at hmeaning ⊢
    exact hmeaning
  · rw [if_neg (by simpa using hempty)]
    refine accepts_single ?_
    rw [acceptsMember_field (by decide), acceptsAt_operators hempty s.isOperator_idConditions,
      hpath, valuesAt_single, hmeaning]

/-- A text is looked for in the title and in the detail. -/
theorem accepts_search (text : String) :
    db.acceptsMember bindings d "$or"
      (.array [searchCondition "title" (Text.escapePattern text),
        searchCondition "detail" (Text.escapePattern text)]) =
      some (db.findsIn "title" text d || db.findsIn "detail" text d) := by
  have hfield : ∀ name, pathOf name = [name] →
      db.acceptsPaths d (searchCondition name (Text.escapePattern text)) =
        some (db.findsIn name text d) := by
    intro name hpath
    have hoperators : ∀ m ∈ [("$regex", Bson.string (Text.escapePattern text)),
        ("$options", .string "i")], isOperator m.1 = true := by
      simp only [List.forall_mem_cons]
      decide
    simp only [searchCondition, Bson.single, acceptsPaths, List.map_cons, List.map_nil]
    rw [acceptsAt_operators (List.cons_ne_nil _ _) hoperators, hpath, valuesAt_single]
    have hpattern : db.satisfies
        [("$regex", .string (Text.escapePattern text)), ("$options", .string "i")]
        (d.get? name).toList "$regex" (.string (Text.escapePattern text)) =
          some (db.findsIn name text d) := rfl
    have hoptions : db.satisfies
        [("$regex", .string (Text.escapePattern text)), ("$options", .string "i")]
        (d.get? name).toList "$options" (.string "i") = some true := rfl
    have hboth := conjunction_cons_some hpattern (conjunction_cons_some hoptions conjunction_nil)
    simp only [Bool.and_true] at hboth
    exact (conjunction_cons_some hboth conjunction_nil).trans (by rw [Bool.and_true])
  have htitle := hfield "title" (by decide)
  have hdetail := hfield "detail" (by decide)
  simp only [acceptsMember, List.map_cons, List.map_nil, htitle, hdetail]
  simp [disjunction, either]

/-- A document without an array of coordinates satisfies no selection. -/
theorem accepts_coordinates :
    db.accepts bindings
      [("location.coordinates", .document [("$exists", true), ("$type", "array")])] d =
        some d.hasCoordinates := by
  have hfield : isOperator "location.coordinates" = false := by decide
  have hpath : pathOf "location.coordinates" = ["location", "coordinates"] := by decide
  have hoperators : ∀ m ∈ [("$exists", Bson.bool true), ("$type", .string "array")],
      isOperator m.1 = true := by
    simp only [List.forall_mem_cons]
    decide
  obtain ⟨found, hfound⟩ :
      ∃ found, found = Bson.valuesAt ["location", "coordinates"] (.document d) := ⟨_, rfl⟩
  have hexists : db.satisfies [("$exists", .bool true), ("$type", .string "array")] found
      "$exists" (.bool true) = some (found.isEmpty != true) := rfl
  have htype : db.satisfies [("$exists", .bool true), ("$type", .string "array")] found
      "$type" (.string "array") = some ((found.flatMap Bson.offered).any Bson.isArray) := rfl
  have hitem : ∀ v, (Bson.offered v).any Bson.isArray = v.isArray := by
    intro v
    cases v <;> simp [Bson.offered, Bson.isArray]
  have hoffered : (found.flatMap Bson.offered).any Bson.isArray = found.any Bson.isArray := by
    simp only [List.any_flatMap, hitem]
  refine accepts_single ?_
  rw [acceptsMember_field hfield, acceptsAt_operators (List.cons_ne_nil _ _) hoperators, hpath,
    ← hfound]
  have hboth := conjunction_cons_some hexists (conjunction_cons_some htype conjunction_nil)
  refine hboth.trans ?_
  rw [hoffered, Bool.and_true, Document.hasCoordinates, ← hfound]
  cases found <;> simp

/-- The rendered conditions are those of the selection. -/
theorem accepts_toDocument (s : Selection) :
    db.accepts bindings s.toDocument d = some (s.admits db d) := by
  have htext : ∀ name, isOperator name = false → pathOf name = [name] → ∀ text : String,
      db.acceptsMember bindings d name (.string text) = some (d.has name (.string text)) := by
    intro name hfield hpath text
    rw [acceptsMember_field hfield, acceptsAt_string hpath]
  have harea : ∀ a, db.acceptsMember bindings d "location" (areaCondition a) =
      some ((d.get? "location").any (db.liesWithin a)) := by
    intro a
    have hoperators : ∀ m ∈ [("$geoWithin", Bson.single "$centerSphere"
        (.array [.array [.double a.lng, .double a.lat], .double a.radians]))],
        isOperator m.1 = true := by
      simp only [List.forall_mem_cons]
      decide
    have hpath : pathOf "location" = ["location"] := by decide
    have hplaces : (d.get? "location").toList.any (db.liesWithin a) =
        (d.get? "location").any (db.liesWithin a) := by
      cases d.get? "location" <;> simp
    rw [acceptsMember_field (by decide), areaCondition, Bson.single,
      acceptsAt_operators (List.cons_ne_nil _ _) hoperators, hpath, valuesAt_single, ← hplaces]
    exact (conjunction_cons_some rfl conjunction_nil).trans (by rw [Bool.and_true])
  unfold toDocument admits
  refine accepts_append (accepts_append (accepts_append (accepts_append (accepts_append
    (accepts_append ?_ ?_) ?_) s.accepts_idConditions) ?_) ?_) accepts_coordinates
  · exact accepts_condition (htext _ (by decide) (by decide))
  · exact accepts_condition fun v ↦ htext _ (by decide) (by decide) v.name
  · exact accepts_condition fun v ↦ htext _ (by decide) (by decide) v.name
  · cases s.search with
    | none => rfl
    | some text => exact accepts_single (accepts_search text)
  · exact accepts_condition harea

end Selection

namespace SessionWindow

open Mongo Database Selection

variable {db : Database} {bindings : Bindings} {d : Document}

/-- The rendered bounds are those of the window. -/
theorem accepts_toDocument (w : SessionWindow) :
    db.acceptsMember bindings d "start_time" (.document w.toDocument) = some (w.includes d) := by
  have hpath : pathOf "start_time" = ["start_time"] := by decide
  have hempty : w.toDocument = [] ↔ (w.earliest.isNone && w.latest.isNone) = true := by
    simp only [toDocument, condition]
    cases w.earliest <;> cases w.latest <;> simp
  have hmeaning : ∀ operators : Document, conjunction (w.toDocument.map fun m ↦
      db.satisfies operators (d.get? "start_time").toList m.1 m.2) =
        some (w.earliest.all (fun t ↦ d.hasSuch "start_time" (.ofInstant t) fun w v ↦ v ≤ w) &&
          w.latest.all fun t ↦ d.hasSuch "start_time" (.ofInstant t) fun w v ↦ w ≤ v) := by
    intro operators
    rw [toDocument, List.map_append]
    exact conjunction_append
      (conjunction_condition fun t ↦ compares_ofInstant "start_time" t d fun w v ↦ v ≤ w)
      (conjunction_condition fun t ↦ compares_ofInstant "start_time" t d fun w v ↦ w ≤ v)
  rw [acceptsMember_field (by decide), includes]
  -- Without a bound there are no operators, and the condition is a comparison with a value.
  by_cases hnone : w.toDocument = []
  · rw [if_pos (hempty.1 hnone), hnone]
    simp [acceptsAt, hpath, valuesAt_single, equals, Bson.isNull, Document.has, Document.offered]
  · have hoperators : ∀ m ∈ w.toDocument, isOperator m.1 = true := by
      intro m hm
      rcases List.mem_append.1 hm with hm | hm
      · rw [fst_eq_of_mem_condition hm]
        decide
      · rw [fst_eq_of_mem_condition hm]
        decide
    rw [if_neg fun h ↦ hnone (hempty.2 h), acceptsAt_operators hnone hoperators, hpath,
      valuesAt_single, hmeaning]

end SessionWindow

namespace Mongo.Database

open Selection

variable (db : Database)

/-- The rows that a stage makes of the rows of the one before it. -/
def carryOut : Stage → List Document → List Document
  | .select s, rows => rows.filter (s.admits db)
  | .joinSessions window, rows => rows.map (db.withSessions window)
  | .requireSessions, rows => rows.filter fun d ↦ !d.has "sessions" (.array [])
  | .sort field order, rows => Document.sorted order [field.name, "_id"] rows
  | .skip count, rows => rows.drop (min count Bson.maxInt64)
  | .limit count, rows => rows.take (min count Bson.maxInt64)

theorem le_cons_iff [LinearOrder α] (order : SortOrder) (a b : α) (as bs : List α) :
    order.le (a :: as) (b :: bs) ↔ order.lt a b ∨ a = b ∧ order.le as bs := by
  cases order with
  | ascending =>
    simp only [SortOrder.le, SortOrder.lt]
    rw [← not_lt, ← not_lt, List.cons_lt_cons_iff]
    rcases lt_trichotomy a b with h | rfl | h
    · simp [h, h.not_gt, h.ne']
    · simp
    · simp [h, h.not_gt, h.ne']
  | descending =>
    simp only [SortOrder.le, SortOrder.lt]
    rw [← not_lt, ← not_lt, List.cons_lt_cons_iff]
    rcases lt_trichotomy a b with h | rfl | h
    · simp [h, h.not_gt, h.ne]
    · simp
    · simp [h, h.not_gt, h.ne']

/-- Keys of one direction order rows as the lists of their keys. -/
theorem precedes_iff (order : SortOrder) (names : List String) (a b : Document) :
    precedes (names.map fun name ↦ (name, order)) a b = true ↔
      order.le (a.rank order names) (b.rank order names) := by
  induction names with
  | nil => cases order <;> simp [precedes, Document.rank, SortOrder.le]
  | cons name names ih =>
    rw [List.map_cons, precedes, Bool.or_eq_true, Bool.and_eq_true, decide_eq_true_iff,
      decide_eq_true_iff, ih]
    exact (le_cons_iff order _ _ _ _).symm

theorem step_match (bindings : Bindings) {condition : Document} {p : Document → Bool}
    (h : ∀ d, db.accepts bindings condition d = some (p d)) (rows : List Document) :
    db.step bindings rows [("$match", .document condition)] = some (rows.filter p) := by
  simp [step, h]

theorem step_sort (bindings : Bindings) {members : Document} (order : SortOrder)
    (names : List String)
    (h : sortKeys? members = some (names.map fun name ↦ (name, order))) (rows : List Document) :
    db.step bindings rows [("$sort", .document members)] =
      some (Document.sorted order names rows) := by
  simp only [step, h, Option.map_some, precedes_iff]
  rfl

theorem step_skip (count : Nat) (rows : List Document) :
    db.step [] rows [("$skip", .ofCount count)] = some (rows.drop (min count Bson.maxInt64)) := by
  have hnonneg : (0 : Int) ≤ (min count Bson.maxInt64 : Nat) := Int.natCast_nonneg _
  simp only [step, Bson.ofCount, if_pos hnonneg, Int.toNat_natCast]

theorem step_limit {count : Nat} (h : 0 < count) (rows : List Document) :
    db.step [] rows [("$limit", .ofCount count)] = some (rows.take (min count Bson.maxInt64)) := by
  have hpos : (0 : Int) < (min count Bson.maxInt64 : Nat) := by
    rw [Bson.maxInt64]
    omega
  simp only [step, Bson.ofCount, if_pos hpos, Int.toNat_natCast]

/-- A session is joined when it names the event and starts in the window. -/
theorem accepts_sessionConditions (window : Option SessionWindow) (event session : Document) :
    db.accepts [("event_id", event.get? "_id")] (Stage.sessionConditions window) session =
      some (((session.get? "event_id").map Bson.key = (event.get? "_id").map Bson.key) &&
        window.all (·.includes session)) := by
  have hagree : db.acceptsMember [("event_id", event.get? "_id")] session "$expr"
      (.single "$eq" (.array ["$event_id", "$$event_id"])) =
        some (decide ((session.get? "event_id").map Bson.key = (event.get? "_id").map Bson.key)) := by
    rfl
  exact accepts_append (accepts_single hagree)
    (accepts_condition fun w ↦ w.accepts_toDocument)

theorem accepts_requireSessions (d : Document) :
    db.accepts [] [("sessions", .single "$ne" (.array []))] d =
      some (!d.has "sessions" (.array [])) := by
  have hpath : pathOf "sessions" = ["sessions"] := by decide
  have hoperators : ∀ m ∈ [("$ne", Bson.array [])], isOperator m.1 = true := by
    simp only [List.forall_mem_cons]
    decide
  refine accepts_single ?_
  rw [acceptsMember_field (by decide), Bson.single,
    acceptsAt_operators (List.cons_ne_nil _ _) hoperators, hpath, valuesAt_single]
  simp [conjunction, both, satisfies, equals, Bson.isNull, Document.has, Document.offered]

theorem sortKeys?_field (field : SortField) (order : SortOrder) :
    sortKeys? [(field.name, .int32 order.direction), ("_id", .int32 order.direction)] =
      some ([field.name, "_id"].map fun name ↦ (name, order)) := by
  cases field <;> cases order <;> decide

theorem join_sessions (window : Option SessionWindow) (event : Document) :
    db.join
      [("from", sessionsCollection), ("let", .single "event_id" "$_id"),
        ("pipeline", .array
          [.single "$match" (.document (Stage.sessionConditions window)),
            .single "$sort" (.document [("start_time", .int32 1), ("_id", .int32 1)])]),
        ("as", "sessions")] event = some (db.withSessions window event) := by
  have hbindings : evaluate [] event "$_id" = some (event.get? "_id") := rfl
  have hkeys : sortKeys? [("start_time", .int32 1), ("_id", .int32 1)] =
      some (["start_time", "_id"].map fun name ↦ (name, .ascending)) := by
    decide
  have hmatch := db.step_match [("event_id", event.get? "_id")]
    (db.accepts_sessionConditions window event)
    (db.documents sessionsCollection)
  have hsort := fun rows ↦ db.step_sort [("event_id", event.get? "_id")]
    .ascending ["start_time", "_id"] hkeys rows
  simp [join, Document.get?_cons, Bson.single, runFlat, hbindings, hmatch, hsort, withSessions,
    sessionsOf]

/-- A rendered stage does what its name says. -/
theorem run_stage {stage : Stage} (h : stage ≠ .limit 0) (rows : List Document) :
    db.run rows [stage.toDocument] = some (db.carryOut stage rows) := by
  cases stage with
  | select s =>
    have hmatch := db.step_match [] (fun d ↦ s.accepts_toDocument) rows
    simp [run, Stage.toDocument, carryOut, hmatch]
  | joinSessions window =>
    have hjoin := funext (db.join_sessions window)
    have hrows : rows.mapM (fun d ↦ some (db.withSessions window d)) =
        some (rows.map (db.withSessions window)) := List.mapM_pure
    simp [run, Stage.toDocument, carryOut, hjoin, hrows]
  | requireSessions =>
    have hmatch := db.step_match [] db.accepts_requireSessions rows
    change db.run rows [[("$match", .document [("sessions", .single "$ne" (.array []))])]] = _
    simp [run, carryOut, hmatch]
  | sort field order =>
    have hsort := db.step_sort [] order [field.name, "_id"]
      (sortKeys?_field field order) rows
    simp [run, Stage.toDocument, carryOut, hsort]
  | skip count => simp [run, Stage.toDocument, carryOut, step_skip]
  | limit count =>
    have hpos : 0 < count := Nat.pos_of_ne_zero fun hzero ↦ h (by rw [hzero])
    simp [run, Stage.toDocument, carryOut, step_limit _ hpos]

theorem run_cons (rows : List Document) (stage : Document) (stages : List Document) :
    db.run rows (stage :: stages) = (db.run rows [stage]).bind fun rows ↦ db.run rows stages := by
  -- Joins are the stages that need the other collections.
  by_cases hlookup : ∃ lookup, stage = [("$lookup", .document lookup)]
  · obtain ⟨lookup, rfl⟩ := hlookup
    simp [run]
  · have hstep : ∀ lookup, stage = [("$lookup", .document lookup)] → False :=
      fun lookup heq ↦ hlookup ⟨lookup, heq⟩
    simp [run.eq_3 _ _ _ _ hstep, run]

theorem run_append (rows : List Document) (stages later : List Document) :
    db.run rows (stages ++ later) = (db.run rows stages).bind fun rows ↦ db.run rows later := by
  induction stages generalizing rows with
  | nil => rfl
  | cons stage stages ih =>
    rw [List.cons_append, run_cons, run_cons _ rows stage stages, Option.bind_assoc]
    exact congrArg _ (funext fun rows ↦ ih rows)

/-- Rendered stages are carried out one after the other. -/
theorem run_stages {stages : List Stage} (h : Stage.limit 0 ∉ stages) (rows : List Document) :
    db.run rows (stages.map Stage.toDocument) =
      some (stages.foldl (fun rows stage ↦ db.carryOut stage rows) rows) := by
  induction stages generalizing rows with
  | nil => rfl
  | cons stage stages ih =>
    have hstage : stage ≠ .limit 0 := fun heq ↦ h (heq ▸ List.mem_cons_self)
    have hstages : Stage.limit 0 ∉ stages := fun hmem ↦ h (List.mem_cons_of_mem _ hmem)
    rw [List.map_cons, run_cons, db.run_stage hstage, Option.bind_some, ih hstages,
      List.foldl_cons]

end Mongo.Database

end EventCatalog
