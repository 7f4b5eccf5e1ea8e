import EventCatalog.Proofs.Plan.Compilation

/-!
# Required texts

A plan selects before it does anything else, and its selection names no field twice.  A text that
the selection requires of a field is therefore required of every row that the plan delivers or
counts: the stages behind the selection drop and sort rows and join sessions to them, but neither
bring in rows of their own nor change what the rows hold besides their sessions.
-/

namespace EventCatalog

open Mongo

/-- Whether a text is the one condition of a selection on a field. -/
def Document.Requires (conditions : Document) (name text : String) : Prop :=
  conditions.filter (·.1 = name) = [(name, .string text)]

/-- Whether a pipeline starts with a selection that requires a text of a field. -/
def Mongo.StartsRequiring (pipeline : List Document) (name text : String) : Prop :=
  ∃ (conditions : Document) (rest : List Document),
    pipeline = [("$match", .document conditions)] :: rest ∧
      conditions.Requires name text

namespace Document

theorem requires_of_mem {conditions : Document} (hnames : (conditions.map Prod.fst).Nodup)
    {name text : String} (h : (name, .string text) ∈ conditions) :
    conditions.Requires name text := by
  induction conditions with
  | nil => cases h
  | cons m rest ih =>
    rw [List.map_cons, List.nodup_cons] at hnames
    rcases List.mem_cons.1 h with rfl | hrest
    · have hlater : rest.filter (·.1 = name) = [] := by
        rw [List.filter_eq_nil_iff]
        intro other hother hname
        apply hnames.1
        exact List.mem_map.2 ⟨other, hother, of_decide_eq_true hname⟩
      rw [Requires, List.filter_cons_of_pos (by simp), hlater]
    · have hne : m.1 ≠ name := by
        intro hname
        apply hnames.1
        exact List.mem_map.2 ⟨_, hrest, hname.symm⟩
      rw [Requires, List.filter_cons_of_neg (by simpa using hne)]
      exact ih hnames.2 hrest

theorem mem_of_requires {conditions : Document} {name text : String}
    (h : conditions.Requires name text) : (name, .string text) ∈ conditions := by
  have hmem : (name, Bson.string text) ∈ conditions.filter (·.1 = name) := by
    rw [h]
    exact List.mem_singleton_self _
  exact (List.mem_filter.1 hmem).1

theorem has_congr {d e : Document} {name : String} (h : d.get? name = e.get? name) (v : Bson) :
    d.has name v = e.has name v := by
  rw [has, has, offered, offered, h]

end Document

namespace Mongo

theorem eq_some_true_of_conjunction {conditions : List (Option Bool)}
    (h : conjunction conditions = some true) : ∀ c ∈ conditions, c = some true := by
  induction conditions with
  | nil => intro c hc; cases hc
  | cons c rest ih =>
    change both c (conjunction rest) = some true at h
    cases c with
    | none => simp [both] at h
    | some p =>
      cases hrest : conjunction rest with
      | none => simp [both, hrest] at h
      | some q =>
        rw [hrest, both_some, Option.some.injEq, Bool.and_eq_true] at h
        intro c hc
        rcases List.mem_cons.1 hc with rfl | hc
        · rw [h.1]
        · exact ih (by rw [hrest, h.2]) c hc

namespace Database

variable {db : Database}

/-- A document that a selection accepts has the texts that the selection requires. -/
theorem has_of_requires {bindings : Bindings} {conditions d : Document} {name text : String}
    (hfield : isOperator name = false) (hpath : pathOf name = [name])
    (hrequires : conditions.Requires name text)
    (haccepts : db.accepts bindings conditions d = some true) :
    d.has name (.string text) = true := by
  have hmember : db.acceptsMember bindings d name (.string text) = some true := by
    apply eq_some_true_of_conjunction haccepts
    exact List.mem_map.2 ⟨_, Document.mem_of_requires hrequires, rfl⟩
  rw [acceptsMember_field hfield, acceptsAt_string hpath] at hmember
  exact Option.some.inj hmember

/-- A stage delivers what rows before it hold, but for the sessions. -/
theorem exists_of_mem_carryOut {stage : Stage} {rows : List Document} {row : Document}
    (h : row ∈ db.carryOut stage rows) :
    ∃ d ∈ rows, ∀ name, name ≠ "sessions" → row.get? name = d.get? name := by
  have hsame : ∀ d ∈ rows, d = row →
      ∃ d ∈ rows, ∀ name, name ≠ "sessions" → row.get? name = d.get? name := by
    rintro d hd rfl
    exact ⟨d, hd, fun _ _ ↦ rfl⟩
  cases stage with
  | select s => exact hsame row (List.mem_filter.1 h).1 rfl
  | joinSessions window =>
    obtain ⟨d, hd, rfl⟩ := List.mem_map.1 h
    exact ⟨d, hd, fun name hname ↦ db.get?_withSessions window hname d⟩
  | requireSessions => exact hsame row (List.mem_filter.1 h).1 rfl
  | sort field order => exact hsame row ((List.mem_insertionSort _).1 h) rfl
  | skip count => exact hsame row (List.mem_of_mem_drop h) rfl
  | limit count => exact hsame row (List.mem_of_mem_take h) rfl

/-- Stages deliver what rows in front of them hold, but for the sessions. -/
theorem exists_of_mem_foldl {stages : List Stage} {rows : List Document} {row : Document}
    (h : row ∈ stages.foldl (fun rows stage ↦ db.carryOut stage rows) rows) :
    ∃ d ∈ rows, ∀ name, name ≠ "sessions" → row.get? name = d.get? name := by
  induction stages generalizing rows with
  | nil => exact ⟨row, h, fun _ _ ↦ rfl⟩
  | cons stage stages ih =>
    obtain ⟨d, hd, hrow⟩ := ih h
    obtain ⟨e, he, hstage⟩ := exists_of_mem_carryOut hd
    exact ⟨e, he, fun name hname ↦ (hrow name hname).trans (hstage name hname)⟩

/-- What comes through a selection and the stages behind it has the texts that are required. -/
theorem has_of_mem_foldl {s : Selection} {later : List Stage} {rows : List Document}
    {row : Document} {name text : String} (hfield : isOperator name = false)
    (hpath : pathOf name = [name]) (hname : name ≠ "sessions")
    (hrequires : s.toDocument.Requires name text)
    (h : row ∈ (Stage.select s :: later).foldl (fun rows stage ↦ db.carryOut stage rows) rows) :
    row.has name (.string text) = true := by
  have hlater : row ∈ later.foldl (fun rows stage ↦ db.carryOut stage rows)
    (db.carryOut (.select s) rows) := h
  obtain ⟨d, hd, hrow⟩ := exists_of_mem_foldl hlater
  have hadmits : db.accepts [] s.toDocument d = some true := by
    rw [Selection.accepts_toDocument, (List.mem_filter.1 hd).2]
  rw [Document.has_congr (hrow name hname)]
  exact has_of_requires hfield hpath hrequires hadmits

end Database

end Mongo

namespace Selection

/-- The fields on which a selection may have conditions, in their order. -/
def conditionNames : List String :=
  ["tenant_id", "status", "visibility", "_id", "$or", "location", "location.coordinates"]

theorem names_condition_sublist (name : String) (value : Option α) (render : α → Bson) :
    ((condition name value render).map Prod.fst).Sublist [name] := by
  cases value with
  | none => exact List.nil_sublist _
  | some a => exact List.Sublist.refl _

theorem names_toDocument_sublist (s : Selection) :
    (s.toDocument.map Prod.fst).Sublist conditionNames := by
  have hid : ((if s.idConditions.isEmpty then [] else
      [("_id", Bson.document s.idConditions)]).map Prod.fst).Sublist ["_id"] := by
    split
    · exact List.nil_sublist _
    · exact List.Sublist.refl _
  unfold toDocument
  simp only [List.map_append]
  exact ((((((names_condition_sublist _ _ _).append (names_condition_sublist _ _ _)).append
    (names_condition_sublist _ _ _)).append hid).append (names_condition_sublist _ _ _)).append
    (names_condition_sublist _ _ _)).append (List.Sublist.refl _)

/-- No condition of a selection is on the field of another one. -/
theorem nodup_names_toDocument (s : Selection) : (s.toDocument.map Prod.fst).Nodup :=
  s.names_toDocument_sublist.nodup (by decide)

theorem requires_tenantId {s : Selection} {tenant : String} (h : s.tenantId = some tenant) :
    s.toDocument.Requires "tenant_id" tenant := by
  apply Document.requires_of_mem s.nodup_names_toDocument
  simp [toDocument, condition, h]

theorem requires_status {s : Selection} {status : EventStatus} (h : s.status = some status) :
    s.toDocument.Requires "status" status.name := by
  apply Document.requires_of_mem s.nodup_names_toDocument
  simp [toDocument, condition, h]

theorem requires_visibility {s : Selection} {visibility : EventVisibility}
    (h : s.visibility = some visibility) :
    s.toDocument.Requires "visibility" visibility.name := by
  apply Document.requires_of_mem s.nodup_names_toDocument
  simp [toDocument, condition, h]

end Selection

/-- Whether a name is that of a field of the stored documents and not a path into them. -/
def Mongo.IsField (name : String) : Prop :=
  isOperator name = false ∧ pathOf name = [name] ∧ name ≠ "sessions"

namespace Plan

variable {f : EventFilter} {audience : Audience} {settings : PageSettings} {plan : Plan}
  {name text : String}

/-- Both pipelines of a plan start with its selection. -/
theorem startsRequiring_ofFilter (hplan : ofFilter f audience settings = .ok plan)
    (h : ∀ cursor, (Selection.ofFilter f audience cursor
      settings.defaultRadius).toDocument.Requires name text) :
    StartsRequiring plan.pipeline name text ∧ StartsRequiring plan.countPipeline name text := by
  obtain ⟨cursor, -, rfl⟩ := exists_cursor_of_ofFilter f audience settings hplan
  constructor
  · exact ⟨_, _, rfl, h cursor⟩
  · rw [countPipeline_ofCursor]
    exact ⟨_, _, rfl, h cursor⟩

theorem requires_of_startsRequiring {s : Selection} {rest : List Document}
    (h : StartsRequiring ((Stage.select s).toDocument :: rest) name text) :
    s.toDocument.Requires name text := by
  obtain ⟨conditions, later, hpipeline, hrequires⟩ := h
  have hconditions : s.toDocument = conditions := by
    have hfirst := (List.cons.inj hpipeline).1
    simpa [Stage.toDocument] using hfirst
  rw [hconditions]
  exact hrequires

/-- Every row that a plan delivers has the texts that its pipeline starts to require. -/
theorem exists_delivered_ofFilter (hplan : ofFilter f audience settings = .ok plan)
    (db : Database) :
    ∃ rows, db.aggregate eventsCollection plan.pipeline = some rows ∧
      ∀ name text, IsField name → StartsRequiring plan.pipeline name text →
        ∀ row ∈ rows, row.has name (.string text) = true := by
  obtain ⟨cursor, -, rfl⟩ := exists_cursor_of_ofFilter f audience settings hplan
  refine ⟨_, db.run_stages (limit_zero_notMem_ofCursor f audience _ cursor) _, ?_⟩
  rintro name text ⟨hfield, hpath, hname⟩ hstarts row hrow
  exact Database.has_of_mem_foldl hfield hpath hname (requires_of_startsRequiring hstarts) hrow

/-- Every row that a plan counts has the texts that its counting pipeline starts to require. -/
theorem exists_counted_ofFilter (hplan : ofFilter f audience settings = .ok plan)
    (db : Database) :
    ∃ stages rows, plan.countPipeline = stages ++ [[("$count", .string "total")]] ∧
      db.aggregate eventsCollection stages = some rows ∧
      db.aggregate eventsCollection plan.countPipeline = some (countRows rows.length) ∧
      ∀ name text, IsField name → StartsRequiring plan.countPipeline name text →
        ∀ row ∈ rows, row.has name (.string text) = true := by
  obtain ⟨cursor, -, rfl⟩ := exists_cursor_of_ofFilter f audience settings hplan
  have hpipeline := countPipeline_ofCursor f audience settings.defaultRadius cursor
  have hrows := db.run_stages (limit_zero_notMem_countStages f audience settings.defaultRadius
    cursor) (db.documents eventsCollection)
  refine ⟨_, _, hpipeline, hrows, ?_, ?_⟩
  · rw [hpipeline, Database.aggregate, Database.run_append, hrows, Option.bind_some, run_count]
  · rintro name text ⟨hfield, hpath, hname⟩ hstarts row hrow
    rw [hpipeline] at hstarts
    exact Database.has_of_mem_foldl hfield hpath hname (requires_of_startsRequiring hstarts) hrow

end Plan

end EventCatalog
