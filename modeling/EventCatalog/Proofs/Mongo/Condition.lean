import EventCatalog.Plan.Basic
import EventCatalog.Proofs.Bson.Order

/-!
# Conditions on documents

What the database takes a condition to mean.  A condition on a field holds when one of the values
that the field offers satisfies it: its value, and the items of that value when it is an array.  A
comparison holds between values of one kind only.

Only the conditions that plans are made of have a meaning here; any other condition has none.  What
a pattern finds in a text and which places lie within a circle is left open.
-/

namespace EventCatalog

namespace Bson

/-- The values of a name in a value: in a document, or in each document of an array. -/
def children (name : String) : Bson → List Bson
  | .document members => (Document.get? members name).toList
  | .array items => items.filterMap fun
    | .document members => Document.get? members name
    | _ => none
  | _ => []

/-- The values at the end of a path. -/
def valuesAt (path : List String) (v : Bson) : List Bson :=
  path.foldl (fun values name ↦ values.flatMap (children name)) [v]

/-- The values that conditions look at: the value itself, and the items of an array. -/
def offered : Bson → List Bson
  | .array items => .array items :: items
  | v => [v]

/-- Whether a value is an array. -/
def isArray : Bson → Bool
  | .array _ => true
  | _ => false

/-- Whether a value is `null`. -/
def isNull : Bson → Bool
  | .null => true
  | _ => false

end Bson

namespace Mongo

/-- The collections of a database, and what it finds in texts and on the globe. -/
structure Database where
  documents : String → List Document
  /-- Whether a pattern under some options is found in a text. -/
  matchesPattern : (pattern options text : String) → Bool
  /-- Whether a stored place lies within a circle. -/
  liesWithin : Area → Bson → Bool

/-- Both conditions, where both have a meaning. -/
def both (a b : Option Bool) : Option Bool := do return (← a) && (← b)

/-- One of two conditions, where both have a meaning. -/
def either (a b : Option Bool) : Option Bool := do return (← a) || (← b)

/-- All conditions. -/
def conjunction (conditions : List (Option Bool)) : Option Bool := conditions.foldr both (some true)

/-- One of the conditions. -/
def disjunction (conditions : List (Option Bool)) : Option Bool :=
  conditions.foldr either (some false)

/-- Whether a name is that of an operator. -/
def isOperator (name : String) : Bool := name.toList.head? = some '$'

/-- The steps of a path. -/
def pathOf (name : String) : List String := (name.toList.splitOn '.').map String.ofList

/-- Whether one of the found values equals a value.  A missing field equals `null`. -/
def equals (found : List Bson) (v : Bson) : Bool :=
  (found.flatMap Bson.offered).any (fun w ↦ w.key = v.key) || (found.isEmpty && v.isNull)

/-- Whether one of the found values is of the kind of a value and compares with it as asked. -/
def compares (found : List Bson) (v : Bson) (asked : List Int → List Int → Bool) : Option Bool :=
  match v with
  | .date _ | .binary _ _ =>
    some ((found.flatMap Bson.offered).any fun w ↦ w.kind = v.kind && asked w.key v.key)
  | _ => none

/-- The circle that a condition on a place describes. -/
def circle? : Bson → Option Area
  | .document [("$centerSphere", .array [.array [.double lng, .double lat], .double radians])] =>
    some ⟨lng, lat, radians⟩
  | _ => none

namespace Database

variable (db : Database)

/-- Whether a pattern is found in one of the found texts. -/
def finds (pattern options : String) (found : List Bson) : Bool :=
  (found.flatMap Bson.offered).any fun
    | .string text => db.matchesPattern pattern options text
    | _ => false

/-- Whether the values found at a path satisfy one of some `operators`. -/
def satisfies (operators : Document) (found : List Bson) (operator : String) (v : Bson) :
    Option Bool :=
  match operator with
  | "$eq" => some (equals found v)
  | "$ne" => some (!equals found v)
  | "$gt" => compares found v fun w v ↦ v < w
  | "$gte" => compares found v fun w v ↦ v ≤ w
  | "$lt" => compares found v fun w v ↦ w < v
  | "$lte" => compares found v fun w v ↦ w ≤ v
  | "$exists" =>
    match v with
    | .bool b => some (found.isEmpty != b)
    | _ => none
  | "$type" =>
    match v with
    | .string "array" => some ((found.flatMap Bson.offered).any Bson.isArray)
    | _ => none
  | "$regex" =>
    match v, operators.get? "$options" with
    | .string pattern, some (.string options) => some (db.finds pattern options found)
    | _, _ => none
  | "$options" => (operators.get? "$regex").map fun _ ↦ true
  | "$geoWithin" => (circle? v).map fun area ↦ found.any (db.liesWithin area)
  | _ => none

/-- Whether a document satisfies a condition on a path: some operators, or equality with a value. -/
def acceptsAt (d : Document) (name : String) (condition : Bson) : Option Bool :=
  let found := Bson.valuesAt (pathOf name) (.document d)
  match condition with
  | .document ((operator, v) :: rest) =>
    if isOperator operator then
      conjunction (((operator, v) :: rest).map fun m ↦
        db.satisfies ((operator, v) :: rest) found m.1 m.2)
    else some (equals found condition)
  | _ => some (equals found condition)

/-- Whether a document satisfies a condition on paths alone. -/
def acceptsPaths (d : Document) : Bson → Option Bool
  | .document members => conjunction (members.map fun m ↦ db.acceptsAt d m.1 m.2)
  | _ => none

end Database

/-- The variables of a nested pipeline.  The value of a variable may be missing. -/
abbrev Bindings := List (String × Option Bson)

/-- The value of an expression for a document: a variable, a member, or the text itself. -/
def evaluate (bindings : Bindings) (d : Document) : Bson → Option (Option Bson)
  | .string text =>
    match text.toList with
    | '$' :: '$' :: name => (bindings.find? (·.1 = String.ofList name)).map (·.2)
    | '$' :: name => if name.contains '.' then none else some (d.get? (String.ofList name))
    | _ => some (some (.string text))
  | _ => none

/-- Whether two expressions have the same value.  Two missing values are the same. -/
def agree (bindings : Bindings) (d : Document) (a b : Bson) : Option Bool := do
  let v ← evaluate bindings d a
  let w ← evaluate bindings d b
  return v.map Bson.key = w.map Bson.key

namespace Database

variable (db : Database)

/-- Whether a document satisfies one member of a condition. -/
def acceptsMember (bindings : Bindings) (d : Document) (name : String) (condition : Bson) :
    Option Bool :=
  match name, condition with
  | "$or", .array alternatives => disjunction (alternatives.map (db.acceptsPaths d))
  | "$expr", .document [("$eq", .array [a, b])] => agree bindings d a b
  | _, _ => if isOperator name then none else db.acceptsAt d name condition

/-- Whether a document satisfies a condition, if the condition has a meaning. -/
def accepts (bindings : Bindings) (condition : Document) (d : Document) : Option Bool :=
  conjunction (condition.map fun m ↦ db.acceptsMember bindings d m.1 m.2)

end Database

end Mongo

end EventCatalog
