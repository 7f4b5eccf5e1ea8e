import EventCatalog.Proofs.Mongo.Condition
import EventCatalog.Plan.Pipeline
import Mathlib.Data.List.Sort

/-!
# Aggregation pipelines

What the database takes a pipeline to mean: its stages are carried out in order, each on the rows of
the one before it.  A nested pipeline sees the variables that are bound around it and has no nested
pipeline of its own.  Only the stages that plans are made of have a meaning here.

Rows that agree in all keys of a sort keep their order.  Where the identifier is among the keys no
two rows of a collection agree, so that nothing depends on this.
-/

namespace EventCatalog

namespace Document

/-- The key of a sort field.  A missing field counts as `null`.  An array counts as its least item
in ascending and as its greatest in descending order; one without items comes first of all. -/
def sortKey (order : SortOrder) (name : String) (d : Document) : List Int :=
  match d.get? name with
  | none => Bson.null.key
  | some (.array items) =>
    let keys := items.map Bson.key
    match order with
    | .ascending => keys.min?.getD []
    | .descending => keys.max?.getD []
  | some v => v.key

end Document

namespace SortOrder

/-- Whether a key stands before another one or is the same. -/
def le [LinearOrder α] (order : SortOrder) (a b : α) : Prop :=
  match order with
  | ascending => a ≤ b
  | descending => b ≤ a

instance [LinearOrder α] (order : SortOrder) : DecidableRel (le (α := α) order) := fun a b ↦
  match order with
  | ascending => inferInstanceAs (Decidable (a ≤ b))
  | descending => inferInstanceAs (Decidable (b ≤ a))

/-- Whether a key stands before another one. -/
def lt [LinearOrder α] (order : SortOrder) (a b : α) : Prop :=
  match order with
  | ascending => a < b
  | descending => b < a

instance [LinearOrder α] (order : SortOrder) : DecidableRel (lt (α := α) order) := fun a b ↦
  match order with
  | ascending => inferInstanceAs (Decidable (a < b))
  | descending => inferInstanceAs (Decidable (b < a))

theorem antisymm [LinearOrder α] (order : SortOrder) {a b : α} (hab : order.le a b)
    (hba : order.le b a) : a = b := by
  cases order with
  | ascending => exact le_antisymm hab hba
  | descending => exact le_antisymm hba hab

theorem trans [LinearOrder α] (order : SortOrder) {a b c : α} (hab : order.le a b)
    (hbc : order.le b c) : order.le a c := by
  cases order with
  | ascending => exact le_trans hab hbc
  | descending => exact le_trans hbc hab

theorem lt_of_le_of_ne [LinearOrder α] (order : SortOrder) {a b : α} (hab : order.le a b)
    (hne : a ≠ b) : order.lt a b := by
  cases order with
  | ascending => exact hab.lt_of_ne hne
  | descending => exact hab.lt_of_ne hne.symm

theorem lt_asymm [LinearOrder α] (order : SortOrder) {a b : α} (hab : order.lt a b) :
    ¬order.lt b a := by
  cases order with
  | ascending => exact not_lt_of_gt hab
  | descending => exact not_lt_of_gt hab

theorem lt_irrefl [LinearOrder α] (order : SortOrder) (a : α) : ¬order.lt a a :=
  fun h ↦ order.lt_asymm h h

theorem lt_trans [LinearOrder α] (order : SortOrder) {a b c : α} (hab : order.lt a b)
    (hbc : order.lt b c) : order.lt a c := by
  cases order with
  | ascending => exact hab.trans hbc
  | descending => exact hbc.trans hab

theorem total [LinearOrder α] (order : SortOrder) (a b : α) : order.le a b ∨ order.le b a := by
  cases order with
  | ascending => exact le_total a b
  | descending => exact le_total b a

instance [LinearOrder β] (order : SortOrder) (f : α → β) :
    Std.Total fun a b ↦ order.le (f a) (f b) :=
  ⟨fun a b ↦ order.total (f a) (f b)⟩

instance [LinearOrder β] (order : SortOrder) (f : α → β) :
    IsTrans α fun a b ↦ order.le (f a) (f b) :=
  ⟨fun _ _ _ hab hbc ↦ order.trans hab hbc⟩

/-- The order of a sign. -/
def ofDirection? : Bson → Option SortOrder
  | .int32 1 => some ascending
  | .int32 (-1) => some descending
  | _ => none

end SortOrder

namespace Mongo

/-- The keys of a sort, the first one decisive. -/
abbrev SortKeys := List (String × SortOrder)

/-- Whether a row may stand before another one. -/
def precedes : SortKeys → Document → Document → Bool
  | [], _, _ => true
  | (name, order) :: keys, a, b =>
    order.lt (a.sortKey order name) (b.sortKey order name) ||
      (a.sortKey order name = b.sortKey order name && precedes keys a b)

/-- The keys that a sort stage names. -/
def sortKeys? (members : Document) : Option SortKeys :=
  members.mapM fun m ↦
    if m.1.toList.contains '.' then none else (SortOrder.ofDirection? m.2).map (m.1, ·)

/-- The number of rows as a count stage writes it. -/
def countValue (n : Nat) : Bson :=
  if n < 0x80000000 then .int32 n
  else if n ≤ Bson.maxInt64 then .int64 n
  else .double (Binary64.ofNat n)

namespace Database

variable (db : Database)

/-- The rows after one stage that is no join. -/
def step (bindings : Bindings) (rows : List Document) : Document → Option (List Document)
  | [("$match", .document condition)] =>
    if rows.all fun d ↦ (db.accepts bindings condition d).isSome then
      some (rows.filter fun d ↦ db.accepts bindings condition d = some true)
    else none
  | [("$sort", .document members)] =>
    (sortKeys? members).map fun keys ↦ rows.insertionSort fun a b ↦ precedes keys a b
  | [("$skip", .int64 n)] => if 0 ≤ n then some (rows.drop n.toNat) else none
  | [("$limit", .int64 n)] => if 0 < n then some (rows.take n.toNat) else none
  | [("$count", .string name)] =>
    some (if rows.isEmpty then [] else [[(name, countValue rows.length)]])
  | _ => none

/-- The rows after stages none of which is a join. -/
def runFlat (bindings : Bindings) : (rows : List Document) → List Bson → Option (List Document)
  | rows, [] => some rows
  | rows, .document stage :: stages => do runFlat bindings (← db.step bindings rows stage) stages
  | _, _ :: _ => none

/-- The row with the rows of another collection joined to it. -/
def join (lookup : Document) (d : Document) : Option Document :=
  match lookup.get? "from", lookup.get? "let", lookup.get? "pipeline", lookup.get? "as" with
  | some (.string collection), some (.document lets), some (.array stages),
      some (.string name) => do
    let bindings ← lets.mapM fun m ↦ (evaluate [] d m.2).map (m.1, ·)
    let joined ← db.runFlat bindings (db.documents collection) stages
    return d.set name (.array (joined.map .document))
  | _, _, _, _ => none

/-- The rows after all stages. -/
def run : (rows : List Document) → List Document → Option (List Document)
  | rows, [] => some rows
  | rows, [("$lookup", .document lookup)] :: stages => do
    run (← rows.mapM (db.join lookup)) stages
  | rows, stage :: stages => do run (← db.step [] rows stage) stages

/-- The rows of a pipeline over a collection. -/
def aggregate (collection : String) (pipeline : List Document) : Option (List Document) :=
  db.run (db.documents collection) pipeline

end Database

end Mongo

end EventCatalog
