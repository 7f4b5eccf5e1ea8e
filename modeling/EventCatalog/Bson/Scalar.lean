import EventCatalog.Bson.Basic
import EventCatalog.Text.Utf8

/-!
# Decoding Scalars

Decoders from single BSON values to texts and numbers.  They take a value as it is stored and look
into no document.
-/

namespace EventCatalog.Bson

abbrev Decoder (α : Type) := Bson → Option α

/-- The subtype of bytes without a special meaning. -/
def plainSubtype : Nat := 0

/-- A text; bytes without a special meaning are read as UTF-8. -/
def decodeString : Decoder String
  | .string s => some s
  | .binary subtype bytes => if subtype = plainSubtype then Text.ofBytes? bytes else none
  | _ => none

/-- A floating-point number; integers are rounded to one. -/
def decodeFloat : Decoder Binary64
  | .double x => some x
  | .int32 n => some (Binary64.ofInt n)
  | .int64 n => some (Binary64.ofInt n)
  | _ => none

def decodeInteger : Decoder Int
  | .int32 n => some n
  | .int64 n => some n
  | _ => none

/-- An unsigned integer of at most `bound`. -/
def decodeUnsigned (bound : Nat) : Decoder Nat := fun v ↦ do
  let n ← decodeInteger v
  if 0 ≤ n ∧ n ≤ bound then some n.toNat else none

/-- The bytes of a text, of bytes without a special meaning or of an array of numbers. -/
def decodeBytes : Decoder (List UInt8)
  | .string s => some (Text.toBytes s)
  | .binary subtype bytes => if subtype = plainSubtype then some bytes else none
  | .array items => items.mapM fun v ↦ (decodeUnsigned 255 v).map UInt8.ofNat
  | _ => none

end EventCatalog.Bson
