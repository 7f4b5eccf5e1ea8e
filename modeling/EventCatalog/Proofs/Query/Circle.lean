import EventCatalog.Proofs.Binary64.Reading
import EventCatalog.Proofs.Event.Draft
import EventCatalog.Proofs.Plan.Requirement
import EventCatalog.Proofs.Query.Parameters

/-!
# The circle of a query

A query with a circle is accepted when neither coordinate is beyond its bounds, and what is no
number is not.  So the center of an accepted circle lies on the globe unless one of its coordinates
was written as no number.  The radius is always a usable one, whatever the request and the
deployment say.
-/

namespace EventCatalog

namespace Validation

/-- Not to be beyond any bound is to be within both, or to be no number. -/
theorem withinBounds_iff_isNaN_or {bound : Nat} {x : Binary64} :
    withinBounds bound x = true ↔
      x.isNaN = true ∨ x.IsWithin (.ofInt (-(bound : Int))) (.ofNat bound) := by
  cases hnan : x.isNaN with
  | true => simp [withinBounds, Binary64.lt, hnan]
  | false => simp [withinBounds_iff hnan]

end Validation

/-- The effective radius is the first usable one of the request's, the deployment's and a fixed one.
-/
theorem find?_effectiveRadius (requested configured : Option Binary64) :
    (requested.toList ++ configured.toList ++ [Binary64.ofNat 1000]).find? isUsableRadius =
      some (effectiveRadius requested configured) := by
  have hfixed : [Binary64.ofNat 1000].find? isUsableRadius = some defaultRadius := by decide
  have hone : ∀ radius : Option Binary64,
      radius.toList.find? isUsableRadius = radius.filter isUsableRadius := by
    intro radius
    cases radius with
    | none => rfl
    | some r => cases h : isUsableRadius r <;> simp [h, Option.filter]
  rw [List.find?_append, List.find?_append, hone, hone, hfixed, effectiveRadius]
  cases requested.filter isUsableRadius <;> cases configured.filter isUsableRadius <;> rfl

namespace Plan

/-- The pipeline of a filter with a circle asks for the places within that circle, its radius turned
into radians. -/
theorem centerSphere_ofFilter {f : EventFilter} {audience : Audience} {settings : PageSettings}
    {plan : Plan} {c : Circle} (hplan : ofFilter f audience settings = .ok plan)
    (hcircle : f.circle = some c) :
    ∃ stage rest, plan.pipeline = stage :: rest ∧
      Bson.valuesAt ["$match", "location", "$geoWithin", "$centerSphere"] (.document stage) =
        [.array [.array [.double c.lng, .double c.lat],
          .double ((effectiveRadius c.radius settings.defaultRadius).div earthRadius)]] := by
  obtain ⟨cursor, -, rfl⟩ := exists_cursor_of_ofFilter f audience settings hplan
  have harea : (Selection.ofFilter f audience cursor settings.defaultRadius).area =
      some ⟨c.lng, c.lat, (effectiveRadius c.radius settings.defaultRadius).div earthRadius⟩ := by
    simp only [Selection.ofFilter, hcircle, Option.map_some]
  have hlocation : Document.get? (Selection.ofFilter f audience cursor
      settings.defaultRadius).toDocument "location" = some (Selection.areaCondition
        ⟨c.lng, c.lat, (effectiveRadius c.radius settings.defaultRadius).div earthRadius⟩) := by
    apply Document.get?_of_mem (Selection.nodup_names_toDocument _)
    simp [Selection.toDocument, harea, Selection.condition]
  refine ⟨_, _, rfl, ?_⟩
  simp [Stage.toDocument, Bson.valuesAt, Bson.children, Document.get?_cons, hlocation,
    Selection.areaCondition, Bson.single]

end Plan

namespace EventQuery

variable {q : EventQuery} {settings : PageSettings} {f : EventFilter} {c : Circle}
  {seen : List String} {pairs : List (String × String)} {bytes : List UInt8}

/-- What each pair of some parameters keeps is kept by all of them. -/
theorem of_ofPairs {holds : EventQuery → Prop} {q' : EventQuery}
    (hstep : ∀ p ∈ parameters, ∀ value, (p.name, value) ∈ pairs →
      ∀ q q', holds q → p.ofText q value = some q' → holds q')
    (hq : holds q) (h : ofPairs seen q pairs = some q') : holds q' := by
  induction pairs generalizing q seen with
  | nil =>
    rw [ofPairs] at h
    exact Option.some.inj h ▸ hq
  | cons pair pairs ih =>
    obtain ⟨name, value⟩ := pair
    have hrest : ∀ p ∈ parameters, ∀ value, (p.name, value) ∈ pairs →
        ∀ q q', holds q → p.ofText q value = some q' → holds q' :=
      fun p hp value hvalue ↦ hstep p hp value (List.mem_cons_of_mem _ hvalue)
    cases hfind : parameters.find? (·.name = name) with
    | none =>
      rw [ofPairs_cons_of_unknown hfind] at h
      exact ih hrest hq h
    | some p =>
      obtain ⟨hmem, rfl⟩ := mem_of_find? hfind
      rw [ofPairs_cons_of_known hfind] at h
      split at h
      · cases h
      · obtain ⟨q₁, hread, hlater⟩ := Option.bind_eq_some_iff.1 h
        exact ih hrest (hstep p hmem value List.mem_cons_self q q₁ hq hread) hlater

/-- Whether the coordinates of a query that are no numbers were named so by some pairs. -/
structure NamesWhatIsNaN (pairs : List (String × String)) (q : EventQuery) : Prop where
  lng : ∀ x ∈ q.lng, x.isNaN = true → ∃ text, ("lng", text) ∈ pairs ∧ Binary64.NamesNaN text
  lat : ∀ x ∈ q.lat, x.isNaN = true → ∃ text, ("lat", text) ∈ pairs ∧ Binary64.NamesNaN text

/-- A coordinate that is read as no number is named so by its pair, and no other pair changes it. -/
theorem namesWhatIsNaN_of_ofPairs (h : ofPairs [] default pairs = some q) :
    q.NamesWhatIsNaN pairs := by
  have hother {α : Type} {name : String} {text : String → Option α} {json : Json.Decoder α}
      {set : EventQuery → Option α → EventQuery}
      (hset : ∀ q a, (set q a).lng = q.lng ∧ (set q a).lat = q.lat) :
      ∀ value, (name, value) ∈ pairs → ∀ q q', NamesWhatIsNaN pairs q →
        (Parameter.of name text json set).ofText q value = some q' → NamesWhatIsNaN pairs q' := by
    intro value _ q q' hq htext
    obtain ⟨a, -, rfl⟩ := Option.map_eq_some_iff.1 htext
    constructor
    · rw [(hset q (some a)).1]
      exact hq.lng
    · rw [(hset q (some a)).2]
      exact hq.lat
  have hlng : ∀ value, ("lng", value) ∈ pairs → ∀ q q', NamesWhatIsNaN pairs q →
      (Parameter.number "lng" fun q lng ↦ { q with lng }).ofText q value = some q' →
        NamesWhatIsNaN pairs q' := by
    intro value hvalue q q' hq htext
    obtain ⟨x, hx, rfl⟩ := Option.map_eq_some_iff.1 htext
    refine ⟨?_, hq.lat⟩
    rintro y ⟨⟩ hnan
    exact ⟨value, hvalue, Binary64.namesNaN_of_read hx hnan⟩
  have hlat : ∀ value, ("lat", value) ∈ pairs → ∀ q q', NamesWhatIsNaN pairs q →
      (Parameter.number "lat" fun q lat ↦ { q with lat }).ofText q value = some q' →
        NamesWhatIsNaN pairs q' := by
    intro value hvalue q q' hq htext
    obtain ⟨x, hx, rfl⟩ := Option.map_eq_some_iff.1 htext
    refine ⟨hq.lng, ?_⟩
    rintro y ⟨⟩ hnan
    exact ⟨value, hvalue, Binary64.namesNaN_of_read hx hnan⟩
  have hblank : NamesWhatIsNaN pairs default := ⟨nofun, nofun⟩
  refine of_ofPairs ?_ hblank h
  simp only [parameters, List.forall_mem_cons]
  refine ⟨?_, ?_, ?_, ?_, hlng, hlat, ?_, ?_, ?_, ?_, ?_, ?_, ?_, ?_, ?_, ?_,
    List.forall_mem_nil _⟩ <;> exact hother fun _ _ ↦ ⟨rfl, rfl⟩

/-- An accepted query asks for a circle around its coordinates, neither of which is beyond its
bounds. -/
theorem circle_of_toFilter (h : q.toFilter settings = .ok f) (hcircle : f.circle = some c) :
    q.lng = some c.lng ∧ q.lat = some c.lat ∧ q.radius = c.radius ∧
      Validation.withinBounds 180 c.lng = true ∧ Validation.withinBounds 90 c.lat = true := by
  obtain ⟨circle, window, hcheck, hq, -, rfl⟩ := exists_of_toFilter h
  obtain rfl : circle = some c := hcircle
  rw [Validation.check_eq_ok_iff, faults, List.append_eq_nil_iff, List.append_eq_nil_iff,
    Validation.longitude, Validation.latitude, Validation.rule_eq_nil_iff,
    Validation.rule_eq_nil_iff] at hcheck
  obtain ⟨⟨hlng, hlat⟩, -⟩ := hcheck
  unfold EventQuery.circle at hq
  split at hq
  next lng lat hlng' hlat' =>
    obtain rfl := Option.some.inj (Except.ok.inj hq)
    exact ⟨hlng', hlat', rfl, hlng _ hlng', hlat _ hlat'⟩
  next => cases hq
  next => cases hq

/-- Whether a coordinate is a finite number within its bounds, or no number and named so by a
parameter of a query string. -/
def IsCoordinate (bytes : List UInt8) (name : String) (bound : Nat) (x : Binary64) : Prop :=
  x.isFinite = true ∧ x.IsWithin (.ofInt (-(bound : Int))) (.ofNat bound) ∨
    x.isNaN = true ∧ ∃ text, (name, text) ∈ Text.formPairs bytes ∧ Binary64.NamesNaN text

theorem isCoordinate_of_withinBounds {name : String} {bound : Nat} {x : Binary64}
    (hlow : (Binary64.ofInt (-(bound : Int))).isFinite = true)
    (hhigh : (Binary64.ofNat bound).isFinite = true)
    (hwithin : Validation.withinBounds bound x = true)
    (hnames : x.isNaN = true →
      ∃ text, (name, text) ∈ Text.formPairs bytes ∧ Binary64.NamesNaN text) :
    IsCoordinate bytes name bound x := by
  rcases Validation.withinBounds_iff_isNaN_or.1 hwithin with hnan | hrange
  · exact .inr ⟨hnan, hnames hnan⟩
  · exact .inl ⟨hrange.isFinite hlow hhigh, hrange⟩

/-- The circle of an accepted query string has a center on the globe, but where a coordinate was
named as no number.  The plan for either audience asks for the places within that circle, with the
first usable radius of the request's, the deployment's and a thousand meters, which is finite and
positive. -/
theorem circle_usable (hquery : ofQueryString bytes = .ok q)
    (hfilter : q.toFilter settings = .ok f) (hcircle : f.circle = some c) :
    IsCoordinate bytes "lng" 180 c.lng ∧ IsCoordinate bytes "lat" 90 c.lat ∧
      ∃ radius,
        (q.radius.toList ++ settings.defaultRadius.toList ++ [Binary64.ofNat 1000]).find?
            isUsableRadius = some radius ∧
          radius.isFinite = true ∧ Binary64.zero.lt radius = true ∧
          ∀ audience plan, Plan.ofFilter f audience settings = .ok plan →
            ∃ stage rest, plan.pipeline = stage :: rest ∧
              Bson.valuesAt ["$match", "location", "$geoWithin", "$centerSphere"]
                  (.document stage) =
                [.array [.array [.double c.lng, .double c.lat],
                  .double (radius.div earthRadius)]] := by
  have hpairs : ofPairs [] default (Text.formPairs bytes) = some q := by
    rw [ofQueryString] at hquery
    split at hquery
    next found => exact Except.ok.inj hquery ▸ found
    next => cases hquery
  have hnames := namesWhatIsNaN_of_ofPairs hpairs
  obtain ⟨hlng, hlat, hradius, hlngBounds, hlatBounds⟩ := circle_of_toFilter hfilter hcircle
  have hfirst := find?_effectiveRadius q.radius settings.defaultRadius
  have husable := List.find?_some hfirst
  rw [isUsableRadius, Bool.and_eq_true] at husable
  refine ⟨?_, ?_, _, hfirst, husable.1, husable.2, fun audience plan hplan ↦ ?_⟩
  · exact isCoordinate_of_withinBounds (by decide) (by decide) hlngBounds (hnames.lng _ hlng)
  · exact isCoordinate_of_withinBounds (by decide) (by decide) hlatBounds (hnames.lat _ hlat)
  · rw [hradius]
    exact Plan.centerSphere_ofFilter hplan hcircle

/-- A circle around a point, without a radius. -/
def aroundPoint (lng lat : Binary64) : EventQuery :=
  { (default : EventQuery) with lng := some lng, lat := some lat }

/-- The filter of a circle around a point, without a radius, in a deployment that says nothing. -/
def filterAround (lng lat : Binary64) : EventFilter :=
  { EventFilter.everything with circle := some ⟨lng, lat, none⟩ }

/-- A query string with a circle at an end of both ranges, and the plan that is made of it. -/
theorem circle_usable_corner :
    (ofQueryString (Text.toBytes "lng=-180&lat=90") =
        .ok (aroundPoint (.ofInt (-180)) (.ofNat 90)) ∧
      (aroundPoint (.ofInt (-180)) (.ofNat 90)).toFilter .standard =
        .ok (filterAround (.ofInt (-180)) (.ofNat 90)) ∧
      (filterAround (.ofInt (-180)) (.ofNat 90)).circle =
        some ⟨.ofInt (-180), .ofNat 90, none⟩) ∧
    (IsCoordinate (Text.toBytes "lng=-180&lat=90") "lng" 180 (.ofInt (-180)) ∧
      IsCoordinate (Text.toBytes "lng=-180&lat=90") "lat" 90 (.ofNat 90)) ∧
    ∃ plan stage rest,
      Plan.ofFilter (filterAround (.ofInt (-180)) (.ofNat 90)) .everyone .standard = .ok plan ∧
        plan.pipeline = stage :: rest ∧
        Bson.valuesAt ["$match", "location", "$geoWithin", "$centerSphere"] (.document stage) =
          [.array [.array [.double (.ofInt (-180)), .double (.ofNat 90)],
            .double ((Binary64.ofNat 1000).div earthRadius)]] := by
  have hquery : ofQueryString (Text.toBytes "lng=-180&lat=90") =
      .ok (aroundPoint (.ofInt (-180)) (.ofNat 90)) := by decide +kernel
  have hfilter : (aroundPoint (.ofInt (-180)) (.ofNat 90)).toFilter .standard =
      .ok (filterAround (.ofInt (-180)) (.ofNat 90)) := by decide +kernel
  have hcircle : (filterAround (.ofInt (-180)) (.ofNat 90)).circle =
      some ⟨.ofInt (-180), .ofNat 90, none⟩ := rfl
  obtain ⟨hlng, hlat, radius, hfirst, -, -, hplans⟩ := circle_usable hquery hfilter hcircle
  have hradius : radius = .ofNat 1000 := List.mem_singleton.1 (List.mem_of_find?_eq_some hfirst)
  obtain ⟨stage, rest, hpipeline, hvalues⟩ := hplans .everyone _ rfl
  rw [hradius] at hvalues
  exact ⟨⟨hquery, hfilter, hcircle⟩, ⟨hlng, hlat⟩, _, stage, rest, rfl, hpipeline, hvalues⟩

/-- A query string that names a coordinate as no number is accepted. -/
theorem circle_usable_not :
    ofQueryString (Text.toBytes "lng=NaN&lat=10") = .ok (aroundPoint .nan (.ofNat 10)) ∧
      (aroundPoint .nan (.ofNat 10)).toFilter .standard = .ok (filterAround .nan (.ofNat 10)) ∧
      (filterAround .nan (.ofNat 10)).circle = some ⟨.nan, .ofNat 10, none⟩ ∧
      Binary64.nan.isNaN = true := by
  decide +kernel

end EventQuery

end EventCatalog
