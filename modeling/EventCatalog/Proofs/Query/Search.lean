import EventCatalog.Proofs.Plan.Requirement
import EventCatalog.Proofs.Query.Parameters
import EventCatalog.Proofs.Text.Pattern
import EventCatalog.Proofs.Text.Trim
import Mathlib.Data.Option.Basic

/-!
# Searched texts

A search asks for one pattern in titles and in details, in the pipeline that fetches a page and in
the one that counts.  The pattern stands for the text of the search and for nothing else, whatever
characters the text is made of, so two searches are for the same pattern only if they are for the
same text.
-/

namespace EventCatalog

namespace Bson

variable {name : String} {d : Document}

theorem valuesAt_cons_of_get? {v : Bson} (h : d.get? name = some v) (path : List String) :
    valuesAt (name :: path) (.document d) = valuesAt path v := by
  simp [valuesAt, children, h]

theorem valuesAt_cons_of_none (h : d.get? name = none) (path : List String) :
    valuesAt (name :: path) (.document d) = [] := by
  have hnothing : path.foldl (fun values name ↦ values.flatMap (children name)) [] = [] := by
    induction path with
    | nil => rfl
    | cons name path ih => exact ih
  simpa [valuesAt, children, h] using hnothing

end Bson

namespace Mongo

/-- What the selections of a pipeline have at a path. -/
def matched (path : List String) (pipeline : List Document) : List Bson :=
  pipeline.flatMap fun stage ↦ Bson.valuesAt ("$match" :: path) (.document stage)

/-- Whether a stage selects nothing by alternatives. -/
def LacksAlternatives (stage : Document) : Prop :=
  ∀ path, Bson.valuesAt ("$match" :: "$or" :: path) (.document stage) = []

end Mongo

open Mongo

namespace Stage

/-- Only selections of events have alternatives. -/
theorem lacksAlternatives_toDocument {stage : Stage} (h : ∀ s, stage ≠ .select s) :
    LacksAlternatives stage.toDocument := by
  intro path
  cases stage with
  | select s => exact absurd rfl (h s)
  | joinSessions window => exact Bson.valuesAt_cons_of_none rfl _
  | requireSessions =>
    exact (Bson.valuesAt_cons_of_get? rfl _).trans (Bson.valuesAt_cons_of_none rfl _)
  | sort field order => exact Bson.valuesAt_cons_of_none rfl _
  | skip count => exact Bson.valuesAt_cons_of_none rfl _
  | limit count => exact Bson.valuesAt_cons_of_none rfl _

/-- The alternatives of a pipeline are those of the one selection of events in it. -/
theorem matched_or {s : Selection} {later : List Document}
    (h : ∀ stage ∈ later, LacksAlternatives stage) (path : List String) :
    matched ("$or" :: path) ((select s).toDocument :: later) =
      Bson.valuesAt ("$or" :: path) (.document s.toDocument) := by
  have hlater : matched ("$or" :: path) later = [] := by
    rw [matched, List.flatMap_eq_nil_iff]
    intro stage hstage
    exact h stage hstage path
  calc matched ("$or" :: path) ((select s).toDocument :: later)
      = Bson.valuesAt ("$match" :: "$or" :: path) (.document (select s).toDocument) ++
          matched ("$or" :: path) later := List.flatMap_cons
    _ = Bson.valuesAt ("$or" :: path) (.document s.toDocument) := by
      rw [hlater, List.append_nil]
      exact Bson.valuesAt_cons_of_get? rfl _

end Stage

namespace Selection

theorem get?_condition {α : Type} (name key : String) (value : Option α) (render : α → Bson) :
    Document.get? (condition name value render) key =
      if name = key then value.map render else none := by
  cases value with
  | none => exact (ite_self none).symm
  | some a => rw [condition, Document.get?_cons, Document.get?_nil, Option.map_some]

/-- The alternatives of a selection are the two places of its search. -/
theorem get?_or (s : Selection) :
    s.toDocument.get? "$or" = (s.search.map Text.escapePattern).map fun pattern ↦
      .array [searchCondition "title" pattern, searchCondition "detail" pattern] := by
  have hid : Document.get? (if s.idConditions.isEmpty then [] else
      [("_id", Bson.document s.idConditions)]) "$or" = none := by
    split <;> rfl
  simp only [toDocument, Document.get?_append, hid, get?_condition, Document.get?_cons,
    Document.get?_nil]
  simp

end Selection

namespace Plan

/-- Whether a pipeline looks for a pattern in titles and in details, in either case, or looks for
none. -/
def LooksFor (pattern : Option String) (pipeline : List Document) : Prop :=
  (matched ["$or"] pipeline).length = pattern.toList.length ∧
    ∀ field ∈ ["title", "detail"],
      matched ["$or", field] pipeline =
        pattern.toList.map fun p ↦ .document [("$regex", .string p), ("$options", .string "i")]

variable {f g : EventFilter} {audience audience' : Audience} {settings settings' : PageSettings}
  {plan plan' : Plan} {pattern pattern' : Option String}

theorem looksFor_cons {s : Selection} {later : List Document}
    (h : ∀ stage ∈ later, LacksAlternatives stage) :
    LooksFor (s.search.map Text.escapePattern) ((Stage.select s).toDocument :: later) := by
  have hor := s.get?_or
  simp only [LooksFor, Stage.matched_or h]
  cases hpattern : s.search.map Text.escapePattern with
  | none =>
    rw [hpattern, Option.map_none] at hor
    simp only [Bson.valuesAt_cons_of_none hor]
    exact ⟨rfl, fun _ _ ↦ rfl⟩
  | some pattern =>
    rw [hpattern, Option.map_some] at hor
    simp only [Bson.valuesAt_cons_of_get? hor]
    refine ⟨rfl, ?_⟩
    simp only [List.forall_mem_cons]
    exact ⟨rfl, rfl, List.forall_mem_nil _⟩

theorem looksFor_pipeline (hplan : ofFilter f audience settings = .ok plan) :
    LooksFor (f.search.map Text.escapePattern) plan.pipeline := by
  obtain ⟨cursor, -, rfl⟩ := exists_cursor_of_ofFilter f audience settings hplan
  refine looksFor_cons fun document hdocument ↦ ?_
  obtain ⟨stage, hstage, rfl⟩ := List.mem_map.1 hdocument
  apply Stage.lacksAlternatives_toDocument
  rintro s rfl
  simp at hstage

theorem looksFor_countPipeline (hplan : ofFilter f audience settings = .ok plan) :
    LooksFor (f.search.map Text.escapePattern) plan.countPipeline := by
  obtain ⟨cursor, -, rfl⟩ := exists_cursor_of_ofFilter f audience settings hplan
  rw [countPipeline_ofCursor]
  refine looksFor_cons fun document hdocument ↦ ?_
  rcases List.mem_append.1 hdocument with hdocument | hdocument
  · obtain ⟨stage, hstage, rfl⟩ := List.mem_map.1 hdocument
    apply Stage.lacksAlternatives_toDocument
    rintro s rfl
    split at hstage <;> simp at hstage
  · obtain rfl := List.mem_singleton.1 hdocument
    exact fun path ↦ Bson.valuesAt_cons_of_none rfl _

/-- A pipeline looks for one pattern at most. -/
theorem LooksFor.unique {pipeline : List Document} (h : LooksFor pattern pipeline)
    (h' : LooksFor pattern' pipeline) : pattern = pattern' := by
  have hsame := (h.2 "title" List.mem_cons_self).symm.trans (h'.2 "title" List.mem_cons_self)
  have hinjective : Function.Injective fun p : String ↦
      Bson.document [("$regex", .string p), ("$options", .string "i")] := by
    intro p p' hp
    simpa using hp
  have hlists : pattern.toList = pattern'.toList :=
    List.map_injective_iff.2 hinjective hsame
  calc pattern = pattern.toList.head? := Option.head?_toList.symm
    _ = pattern'.toList.head? := congrArg List.head? hlists
    _ = pattern' := Option.head?_toList

/-- The pattern of a plan stands for the text of its filter's search. -/
theorem exists_looksFor_ofFilter (hplan : ofFilter f audience settings = .ok plan) :
    ∃ pattern, LooksFor pattern plan.pipeline ∧ LooksFor pattern plan.countPipeline ∧
      Option.Rel Text.StandsFor pattern f.search := by
  refine ⟨_, looksFor_pipeline hplan, looksFor_countPipeline hplan, ?_⟩
  cases f.search with
  | none => exact .none
  | some text => exact .some (Text.standsFor_escapePattern text)

/-- Plans that look for the same pattern were made for the same search. -/
theorem search_eq_of_looksFor (hplan : ofFilter f audience settings = .ok plan)
    (hplan' : ofFilter g audience' settings' = .ok plan')
    (h : LooksFor pattern plan.pipeline) (h' : LooksFor pattern plan'.pipeline) :
    f.search = g.search := by
  have hpattern : f.search.map Text.escapePattern = g.search.map Text.escapePattern :=
    ((looksFor_pipeline hplan).unique h).trans (h'.unique (looksFor_pipeline hplan'))
  have hinjective : Function.Injective Text.escapePattern := by
    intro text other heq
    have hother := Text.standsFor_escapePattern other
    rw [← heq] at hother
    exact (Text.standsFor_escapePattern text).unique hother
  exact Option.map_injective hinjective hpattern

end Plan

namespace EventQuery

variable {q : EventQuery} {settings : PageSettings} {f : EventFilter} {text : String}

/-- What an accepted query searches for. -/
theorem search_toFilter (h : q.toFilter settings = .ok f) (trimmed : String) :
    f.search = some trimmed ↔ trimmed ≠ "" ∧ ∃ text ∈ q.search, Text.Trims text trimmed := by
  obtain ⟨circle, window, -, -, -, rfl⟩ := exists_of_toFilter h
  have hfilter : (q.filterOf settings circle window).search =
      (q.search.filter (!Text.isBlankText ·)).map Text.trim := rfl
  simp only [hfilter, Option.map_eq_some_iff, Option.filter_eq_some_iff, Text.trims_iff]
  constructor
  · rintro ⟨text, ⟨htext, hblank⟩, rfl⟩
    refine ⟨fun hempty ↦ ?_, text, htext, rfl⟩
    rw [Text.trim_eq_empty_iff.1 hempty] at hblank
    cases hblank
  · rintro ⟨hne, text, htext, rfl⟩
    refine ⟨text, ⟨htext, ?_⟩, rfl⟩
    rw [Bool.not_eq_true', ← Bool.not_eq_true, ← Text.trim_eq_empty_iff]
    exact hne

/-- A blank text is no search. -/
theorem toFilter_of_blank (hblank : Text.isBlankText text = true) :
    { q with search := some text }.toFilter settings =
      { q with search := none }.toFilter settings := by
  have hnothing : nonBlank (some text) = nonBlank none := by
    simp [nonBlank, hblank]
  rw [toFilter_eq_map, toFilter_eq_map]
  simp only [filterOf, hnothing]
  rfl

end EventQuery

open Plan

/-- Every search is literal.  The pipelines of a plan look for one pattern, which stands for the
searched text alone, so that two plans look for the same pattern only if they were made for the same
search.  A query searches for its text without the blanks around it, and for nothing when the text
is blank. -/
theorem search_isLiteral :
    (∀ f audience settings plan, ofFilter f audience settings = .ok plan →
      ∃ pattern, LooksFor pattern plan.pipeline ∧ LooksFor pattern plan.countPipeline ∧
        Option.Rel Text.StandsFor pattern f.search) ∧
    (∀ f g audience audience' settings settings' plan plan' pattern,
      ofFilter f audience settings = .ok plan → ofFilter g audience' settings' = .ok plan' →
      LooksFor pattern plan.pipeline → LooksFor pattern plan'.pipeline → f.search = g.search) ∧
    ∀ (q : EventQuery) settings,
      (∀ f, q.toFilter settings = .ok f → ∀ trimmed, f.search = some trimmed ↔
        trimmed ≠ "" ∧ ∃ text ∈ q.search, Text.Trims text trimmed) ∧
      ∀ text, Text.isBlankText text = true →
        { q with search := some text }.toFilter settings =
          { q with search := none }.toFilter settings := by
  refine ⟨?_, ?_, fun q settings ↦ ⟨?_, ?_⟩⟩
  · intro f audience settings plan hplan
    exact exists_looksFor_ofFilter hplan
  · intro f g audience audience' settings settings' plan plan' pattern hplan hplan' h h'
    exact search_eq_of_looksFor hplan hplan' h h'
  · intro f hfilter
    exact EventQuery.search_toFilter hfilter
  · intro text hblank
    exact EventQuery.toFilter_of_blank hblank

/-- All events with a text. -/
def EventFilter.searching (text : String) : EventFilter :=
  { everything with search := some text }

/-- A query for a text. -/
def EventQuery.searching (text : String) : EventQuery :=
  { (default : EventQuery) with search := some text }

/-- A text of operators is looked for, by a pattern that no plan for the text with one of them
behind a backslash looks for. -/
theorem search_isLiteral_operators :
    (∃ plan plan' pattern,
      ofFilter (.searching "a.*") .everyone .standard = .ok plan ∧
        ofFilter (.searching "a\\.*") .everyone .standard = .ok plan' ∧
        LooksFor pattern plan.pipeline ∧ ¬LooksFor pattern plan'.pipeline ∧
        Option.Rel Text.StandsFor pattern (some "a.*")) ∧
    (∃ f, (EventQuery.searching " a.* ").toFilter .standard = .ok f ∧ f.search = some "a.*") ∧
    Text.isBlankText " " = true ∧ (EventQuery.searching " ").toFilter .standard =
      (default : EventQuery).toFilter .standard := by
  obtain ⟨hplans, hsame, hqueries⟩ := search_isLiteral
  obtain ⟨hsearch, hblank⟩ := hqueries (.searching " a.* ") .standard
  obtain ⟨pattern, hlooks, -, hstands⟩ :=
    hplans (.searching "a.*") .everyone .standard _ rfl
  have hspace : Text.isBlankText " " = true := by decide
  have htrims : Text.Trims " a.* " "a.*" := by
    rw [Text.trims_iff]
    decide
  refine ⟨⟨_, _, pattern, rfl, rfl, hlooks, fun hlooks' ↦ ?_, hstands⟩, ⟨_, rfl, ?_⟩, hspace, ?_⟩
  · have heq := hsame (.searching "a.*") (.searching "a\\.*") .everyone .everyone .standard
      .standard _ _ pattern rfl rfl hlooks hlooks'
    exact absurd heq (by decide)
  · exact (hsearch _ rfl _).2 ⟨by decide, _, rfl, htrims⟩
  · exact hblank " " hspace

end EventCatalog
