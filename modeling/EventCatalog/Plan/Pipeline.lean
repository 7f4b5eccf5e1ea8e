import EventCatalog.Plan.Basic

/-!
# Aggregation Pipelines

The stages of a plan as the documents that the database executes, and the pipeline that counts the
rows a plan pages over.
-/

namespace EventCatalog

def eventsCollection : String := "events"
def sessionsCollection : String := "sessions"

namespace Selection

/-- A member for a condition that may be absent. -/
def condition (name : String) (value : Option α) (render : α → Bson) : Document :=
  match value with
  | some a => [(name, render a)]
  | none => []

/-- The conditions on the identifier. -/
def idConditions (s : Selection) : Document :=
  condition "$eq" s.eventId .ofUuid ++
    match s.boundary with
    | some (order, id) => [(order.boundaryOperator, .ofUuid id)]
    | none => []

/-- A match on one field that ignores case. -/
def searchCondition (field pattern : String) : Bson :=
  .single field (.document [("$regex", pattern), ("$options", "i")])

/-- The circle as a condition on a location. -/
def areaCondition (a : Area) : Bson :=
  .single "$geoWithin"
    (.single "$centerSphere" (.array [.array [.double a.lng, .double a.lat], .double a.radians]))

/-- All conditions.  Documents without a usable location never match. -/
def toDocument (s : Selection) : Document :=
  condition "tenant_id" s.tenantId .string ++
    condition "status" s.status (fun v ↦ .string v.name) ++
    condition "visibility" s.visibility (fun v ↦ .string v.name) ++
    (if s.idConditions.isEmpty then [] else [("_id", .document s.idConditions)]) ++
    condition "$or" (s.search.map Text.escapePattern)
      (fun pattern ↦ .array [searchCondition "title" pattern, searchCondition "detail" pattern]) ++
    condition "location" s.area areaCondition ++
    [("location.coordinates", .document [("$exists", true), ("$type", "array")])]

end Selection

namespace SessionWindow

/-- The bounds of a window on a date. -/
def toDocument (w : SessionWindow) : Document :=
  Selection.condition "$gte" w.earliest .ofInstant ++ Selection.condition "$lte" w.latest .ofInstant

end SessionWindow

namespace Stage

/-- The condition on the sessions that are joined to an event. -/
def sessionConditions (window : Option SessionWindow) : Document :=
  [("$expr", .single "$eq" (.array ["$event_id", "$$event_id"]))] ++
    Selection.condition "start_time" window fun w ↦ .document w.toDocument

def toDocument : Stage → Document
  | select selection => [("$match", .document selection.toDocument)]
  | joinSessions window =>
    [("$lookup", .document
      [("from", sessionsCollection), ("let", .single "event_id" "$_id"),
        ("pipeline", .array
          [.single "$match" (.document (sessionConditions window)),
            .single "$sort" (.document [("start_time", .int32 1), ("_id", .int32 1)])]),
        ("as", "sessions")])]
  | requireSessions => [("$match", .single "sessions" (.single "$ne" (.array [])))]
  | sort field order =>
    [("$sort", .document [(field.name, .int32 order.direction), ("_id", .int32 order.direction)])]
  | skip count => [("$skip", .ofCount count)]
  | limit count => [("$limit", .ofCount count)]

/-- Whether a stage has a part in the number of rows; joined sessions have when they are required.
-/
def affectsCount (sessionsRequired : Bool) : Stage → Bool
  | select _ => true
  | joinSessions _ => sessionsRequired
  | requireSessions => true
  | sort _ _ => false
  | skip _ => false
  | limit _ => false

end Stage

namespace Plan

/-- The pipeline that fetches the page. -/
def pipeline (p : Plan) : List Document := p.stages.map Stage.toDocument

/-- The pipeline that counts all rows the plan pages over. -/
def countPipeline (p : Plan) : List Document :=
  (p.stages.filter (Stage.affectsCount (p.stages.contains .requireSessions))).map
    Stage.toDocument ++ [[("$count", .string "total")]]

end Plan

end EventCatalog
