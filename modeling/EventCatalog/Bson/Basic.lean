import EventCatalog.Binary64.Basic
import EventCatalog.Instant.Basic
import EventCatalog.Uuid

/-!
# BSON Values

The values of stored documents, of query conditions and of database commands.  The members of a
document have an order.
-/

namespace EventCatalog

inductive Bson where
  | null
  | bool (b : Bool)
  | int32 (n : Int)
  | int64 (n : Int)
  | double (x : Binary64)
  | string (s : String)
  /-- Milliseconds since 1970-01-01T00:00:00Z. -/
  | date (millis : Int)
  | binary (subtype : Nat) (bytes : List UInt8)
  | array (items : List Bson)
  | document (members : List (String × Bson))
  deriving Inhabited

abbrev Document := List (String × Bson)

namespace Bson

instance : Coe String Bson := ⟨.string⟩
instance : Coe Bool Bson := ⟨.bool⟩

def uuidSubtype : Nat := 4

def ofUuid (id : Uuid) : Bson := .binary uuidSubtype id.toBytes

/-- An instant as a date, to the millisecond. -/
def ofInstant (t : Instant) : Bson := .date t.toMillis

def ofOptionalString (s : Option String) : Bson := (s.map .string).getD .null

def maxInt64 : Nat := 0x7FFFFFFFFFFFFFFF

/-- A number as a 64-bit integer, the largest one for all beyond. -/
def ofCount (n : Nat) : Bson := .int64 (min n maxInt64 : Nat)

def single (name : String) (value : Bson) : Bson := .document [(name, value)]

end Bson

def Document.get? (d : Document) (name : String) : Option Bson :=
  (d.find? (·.1 = name)).map (·.2)

/-- Sets a member: in its place when there is one of that name, else at the end. -/
def Document.set (d : Document) (name : String) (value : Bson) : Document :=
  if d.any (·.1 = name) then d.map fun m ↦ if m.1 = name then (name, value) else m
  else d ++ [(name, value)]

end EventCatalog
