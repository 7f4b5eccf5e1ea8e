import EventCatalog.OpenApi.Schema

/-!
# Described Operations

The description of an operation: its parameters, the record in its body and the responses to expect.
Bodies are JSON on both sides.
-/

namespace EventCatalog.OpenApi

/-- Where a parameter stands. -/
inductive ParameterPlace where
  | path
  | query
  | header
  deriving DecidableEq, Repr

def ParameterPlace.name : ParameterPlace → String
  | path => "path"
  | query => "query"
  | header => "header"

structure Parameter where
  name : String
  place : ParameterPlace
  isRequired : Bool
  type : ValueType
  note : Option String
  deriving DecidableEq, Repr

/-- The description of a parameter.  A header field that may be absent may be `null`; a parameter of
the query is merely left out. -/
def Parameter.toJson (p : Parameter) : Json :=
  let schema :=
    if p.isRequired || p.place = .query then p.type.toJson none else p.type.toNullableJson none
  .object ([("name", .string p.name), ("in", .string p.place.name)] ++ remark p.note ++
    [("required", .bool p.isRequired), ("schema", schema)])

/-- A value of a named type as the content of a message. -/
def content (name : String) : Json :=
  .object [("application/json", .object [("schema", (ValueType.named name).toJson none)])]

structure ResponseSchema where
  status : Nat
  note : String
  /-- The named type of its body. -/
  body : String
  deriving DecidableEq, Repr

def ResponseSchema.toJson (r : ResponseSchema) : Json :=
  .object [("description", .string r.note), ("content", content r.body)]

structure Operation where
  id : String
  summary : String
  tag : String
  parameters : List Parameter
  /-- The named type of its body. -/
  body : Option String
  responses : List ResponseSchema
  deriving DecidableEq, Repr

def Operation.toJson (o : Operation) : Json :=
  .object ([("tags", .array [.string o.tag]), ("summary", .string o.summary),
      ("operationId", .string o.id), ("parameters", .array (o.parameters.map (·.toJson)))] ++
    Json.optionalMember "requestBody"
      (o.body.map fun name ↦ .object [("content", content name), ("required", true)]) ++
    [("responses", .object (o.responses.map fun r ↦ (toString r.status, r.toJson)))])

end EventCatalog.OpenApi
