import EventCatalog.Bson.Basic
import EventCatalog.Proofs.Uuid
import EventCatalog.Text.Utf8
import Mathlib.Data.List.Lex

/-!
# The order of BSON values

The database orders values of every kind: first by kind, then within the kind.  Numbers of all three
types are one kind.  The order is that of keys, which are lists of integers; a key spells a value
out so that two values have the same key exactly when the database takes them for equal.  A text, a
document and an array end with a zero that no part of them can begin with.
-/

namespace EventCatalog.Bson

/-- The place of a kind of values in the order. -/
def kind : Bson → Int
  | null => 0
  | int32 _ => 1
  | int64 _ => 1
  | double _ => 1
  | string _ => 2
  | document _ => 3
  | array _ => 4
  | binary _ _ => 5
  | bool _ => 6
  | date _ => 7

/-- The key of an integer, counted in the units of floating-point numbers. -/
def integerKey (n : Int) : List Int := [2, n * Nat.pow 2 1074]

/-- The key of a floating-point number; no number at all comes before all numbers. -/
def floatKey (x : Binary64) : List Int :=
  if x.isNaN then [0]
  else if x.isInfinite then [if x.isNegative then 1 else 3]
  else [2, x.units]

/-- The key of a sequence of bytes of no fixed length. -/
def textKey (s : String) : List Int := (Text.toBytes s).map (fun b ↦ (b.toNat : Int) + 1) ++ [0]

mutual

/-- The key of a value. -/
def key : Bson → List Int
  | null => [0]
  | int32 n => 1 :: integerKey n
  | int64 n => 1 :: integerKey n
  | double x => 1 :: floatKey x
  | string s => 2 :: textKey s
  | document members => 3 :: membersKey members
  | array items => 4 :: itemsKey items
  | binary subtype bytes => 5 :: bytes.length :: subtype :: bytes.map fun b ↦ (b.toNat : Int)
  | bool b => [6, if b then 1 else 0]
  | date millis => [7, millis]

/-- The key of the items of an array. -/
def itemsKey : List Bson → List Int
  | [] => [0]
  | item :: items => 1 :: (key item ++ itemsKey items)

/-- The key of the members of a document: kinds first, then names, then values. -/
def membersKey : List (String × Bson) → List Int
  | [] => [0]
  | (name, value) :: members =>
    1 :: kind value :: (textKey name ++ (key value ++ membersKey members))

end

theorem toByteArray_toBytes (s : String) : (Text.toBytes s).toByteArray = s.toByteArray := by
  conv_rhs => rw [← String.ofList_toList (s := s), String.toByteArray_ofList, List.utf8Encode]
  rfl

theorem toBytes_injective : Function.Injective Text.toBytes := by
  intro s t h
  rw [← String.toByteArray_inj, ← toByteArray_toBytes, ← toByteArray_toBytes, h]

/-- Texts have the same key only when they are the same. -/
@[simp]
theorem key_string_inj (s t : String) : (string s).key = (string t).key ↔ s = t := by
  constructor
  · intro h
    have hmap := List.append_cancel_right (List.cons.inj h).2
    have hbyte : Function.Injective fun b : UInt8 ↦ (b.toNat : Int) + 1 := by
      intro a b hab
      have hnat : (a.toNat : Int) = b.toNat := by simpa using hab
      exact UInt8.toNat_inj.1 (Int.ofNat_inj.1 hnat)
    exact toBytes_injective (List.map_injective_iff.2 hbyte hmap)
  · intro h
    rw [h]

/-- Dates are ordered as their milliseconds. -/
theorem key_date_lt_of_lt {m n : Int} (h : m < n) : (date m).key < (date n).key := by
  simp only [key, List.cons_lt_cons_iff, h, lt_irrefl, true_and, true_or, or_true]

@[simp]
theorem key_date_le (m n : Int) : (date m).key ≤ (date n).key ↔ m ≤ n := by
  have hmono : StrictMono fun millis ↦ (date millis).key := fun _ _ ↦ key_date_lt_of_lt
  exact hmono.le_iff_le

theorem map_toNat_lt_of_compare {xs ys : List UInt8} (h : compare xs ys = .lt) :
    (xs.map fun b ↦ (b.toNat : Int)) < ys.map fun b ↦ (b.toNat : Int) := by
  induction xs generalizing ys with
  | nil =>
    cases ys with
    | nil => simp at h
    | cons y ys => exact List.nil_lt_cons _ _
  | cons x xs ih =>
    cases ys with
    | nil => simp at h
    | cons y ys =>
      rw [List.compare_cons_cons, Ordering.then_eq_lt] at h
      rw [List.map_cons, List.map_cons, List.cons_lt_cons_iff]
      rcases h with h | ⟨heq, h⟩
      · left
        have hlt : x < y := Std.compare_eq_lt.1 h
        exact Int.ofNat_lt.2 (UInt8.lt_iff_toNat_lt.1 hlt)
      · right
        rw [Std.compare_eq_iff_eq.1 heq]
        exact ⟨rfl, ih h⟩

/-- Stored identifiers are ordered as the identifiers. -/
theorem key_ofUuid_strictMono : StrictMono fun id ↦ (ofUuid id).key := by
  intro a b h
  have hbytes := map_toNat_lt_of_compare ((Uuid.compare_toBytes a b).trans (compare_lt_iff_lt.2 h))
  simp only [ofUuid, key, Uuid.length_toBytes, List.cons_lt_cons_iff, lt_irrefl, false_or, true_and]
  exact hbytes

@[simp]
theorem kind_ofUuid (id : Uuid) : (ofUuid id).kind = 5 := by
  rw [ofUuid, kind]

@[simp]
theorem key_ofUuid_lt (a b : Uuid) : (ofUuid a).key < (ofUuid b).key ↔ a < b :=
  key_ofUuid_strictMono.lt_iff_lt

@[simp]
theorem key_ofUuid_inj (a b : Uuid) : (ofUuid a).key = (ofUuid b).key ↔ a = b :=
  key_ofUuid_strictMono.injective.eq_iff

end EventCatalog.Bson
