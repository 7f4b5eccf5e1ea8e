import EventCatalog.Mongo.Repository

/-!
# Indexes

The indexes that the plans rely on: one for places, one for the listing of a tenant, and two for the
sessions of an event.  The last one is unique, so that an event has no two sessions with the same
times.
-/

namespace EventCatalog.Mongo

structure Index where
  name : String
  /-- The fields, each with its direction or its kind. -/
  key : Document
  /-- Whether no two documents may agree in the fields. -/
  isUnique : Bool

namespace Index

def toDocument (i : Index) : Document :=
  [("key", .document i.key), ("name", .string i.name)] ++
    if i.isUnique then [("unique", .bool true)] else []

def ofEvents : List Index :=
  [⟨"idx_location_2dsphere", [("location", "2dsphere")], false⟩,
    ⟨"idx_tenant_status_visibility",
      [("tenant_id", .int32 1), ("status", .int32 1), ("visibility", .int32 1),
        ("created_at", .int32 (-1))], false⟩]

def ofSessions : List Index :=
  [⟨"idx_event_start", [("event_id", .int32 1), ("start_time", .int32 1)], false⟩,
    ⟨"idx_event_start_end_unique",
      [("event_id", .int32 1), ("start_time", .int32 1), ("end_time", .int32 1)], true⟩]

end Index

def createIndexes (collection : String) (indexes : List Index) :
    Exchange (Except EventError Unit) := do
  let reply ← send (.createIndexes collection (indexes.map Index.toDocument))
  return reply.success.mapError (← get).wording.report

/-- Creates all indexes, those of events first. -/
def createAllIndexes : Exchange (Except EventError Unit) := do
  match ← createIndexes eventsCollection Index.ofEvents with
  | .ok () => createIndexes sessionsCollection Index.ofSessions
  | .error e => return .error e

/-- What is reported at the start when the indexes cannot be created. -/
def indexFailureMessage (e : EventError) : String :=
  "Failed to create event indexes: " ++ e.message

end EventCatalog.Mongo
