import EventCatalog.Bson.Decimal128
import EventCatalog.Bson.Scalar
import EventCatalog.Binary64.Decimal
import EventCatalog.Instant.Strict
import EventCatalog.Text.Base64

/-!
# Extended Forms

A document may write a value of another type: a member whose name begins with a dollar sign names
the type, and its value holds what is written.  Members in front of it do not matter, nor do those
behind it.  A form that does not hold what its type asks for is malformed, and so is every value
with a malformed one in it.
-/

namespace EventCatalog.Bson

/-- What a value stands for, as far as a decoder depends on it. -/
inductive Denotation where
  | text (s : String)
  /-- Milliseconds since 1970-01-01T00:00:00Z. -/
  | date (millis : Int)
  | binary (subtype : Nat) (bytes : List UInt8)
  /-- A document that writes no value of another type. -/
  | document
  | other
  deriving DecidableEq, Repr

namespace Extended

/-- The values of a form with named parts.  A document has these members and no others, an array
begins with them. -/
def parts? (names : List String) : Bson → Option (List Bson)
  | .document members =>
    if members.all fun m ↦ names.contains m.1 then names.mapM (Document.get? members) else none
  | .array items => if names.length ≤ items.length then some (items.take names.length) else none
  | _ => none

/-- Whether a text writes the twelve bytes of an object identifier. -/
def isObjectId (s : String) : Bool := (Text.bytesOfHex? s.toList).any (·.length = 12)

/-- An object identifier: its bytes, or a text that writes them. -/
def readObjectId? (v : Bson) : Option Denotation :=
  let isValid := match v with
    | .string s => isObjectId s
    | .binary subtype bytes => subtype = plainSubtype && bytes.length = 12
    | _ => false
  if isValid then some .other else none

/-- A text that satisfies a condition. -/
def readText? (isValid : String → Bool) (v : Bson) : Option Denotation := do
  if isValid (← decodeString v) then some .other else none

def maxInt32 : Nat := 0x7FFFFFFF

/-- Bytes as text, and their subtype as two hexadecimal digits. -/
def readBinary? (v : Bson) : Option Denotation := do
  match ← (← parts? ["base64", "subType"] v).mapM decodeString with
  | [text, subtype] =>
    let bytes ← Text.Base64.decodeStandard? text.toList
    match ← Text.bytesOfHex? subtype.toList with
    | [b] => return .binary b.toNat bytes
    | _ => none
  | _ => none

def readUuid? (v : Bson) : Option Denotation := do
  return .binary uuidSubtype (← Uuid.ofString? (← decodeString v)).toBytes

/-- The milliseconds of an instant, rounded toward 1970. -/
def millisToward1970 (t : Instant) : Int := (t.seconds * 1000000000 + t.nanos).tdiv 1000000

/-- A date: a strict text, a number of milliseconds, or the text of such a number as the only part
of a form of its own. -/
def readDate? (v : Bson) : Option Denotation :=
  let ofNumber (text : Bson) : Option Denotation := do
    return .date (← Text.readSigned? maxInt64 (← decodeString text))
  match v with
  | .document [("$numberLong", text)] => ofNumber text
  | .array [text] => ofNumber text
  | v =>
    match decodeInteger v with
    | some millis => some (.date millis)
    | none => do return .date (millisToward1970 (← Instant.Strict.ofString? (← decodeString v)))

/-- Two numbers of 32 bits. -/
def readTimestamp? (v : Bson) : Option Denotation := do
  let _ ← (← parts? ["t", "i"] v).mapM (decodeUnsigned Text.max32)
  return .other

def readPattern? (v : Bson) : Option Denotation := do
  let _ ← (← parts? ["pattern", "options"] v).mapM decodeString
  return .other

/-- The name of a collection and the text of an object identifier in it. -/
def readPointer? (v : Bson) : Option Denotation := do
  match ← parts? ["$ref", "$id"] v with
  | [collection, id] =>
    let _ ← decodeString collection
    match ← (← parts? ["$oid"] id).mapM decodeString with
    | [text] => if isObjectId text then return .other else none
    | _ => none
  | _ => none

/-- The number one, which marks an end of the order of values. -/
def readEnd? (v : Bson) : Option Denotation :=
  if decodeUnsigned 255 v = some 1 then some .other else none

/-- The word `true`, which marks a value that is missing. -/
def readUndefined? : Bson → Option Denotation
  | .bool true => some .other
  | _ => none

def readDecimalBytes? (v : Bson) : Option Denotation := do
  if (← decodeBytes v).length = 16 then some .other else none

/-- The forms that one member makes up, with the readers of its value. -/
def readers : List (String × (Bson → Option Denotation)) :=
  [("$oid", readObjectId?),
    ("$symbol", readText? fun _ ↦ true),
    ("$numberInt", readText? fun s ↦ (Text.readSigned? maxInt32 s).isSome),
    ("$numberLong", readText? fun s ↦ (Text.readSigned? maxInt64 s).isSome),
    ("$numberDouble", readText? fun s ↦ (Binary64.read s).toBool),
    ("$numberDecimal", readText? Decimal128.isWritten),
    ("$numberDecimalBytes", readDecimalBytes?),
    ("$binary", readBinary?),
    ("$uuid", readUuid?),
    ("$timestamp", readTimestamp?),
    ("$regularExpression", readPattern?),
    ("$dbPointer", readPointer?),
    ("$date", readDate?),
    ("$maxKey", readEnd?),
    ("$minKey", readEnd?),
    ("$undefined", readUndefined?)]

/-- The reader of the form that a member of some name makes up. -/
def reader? (name : String) : Option (Bson → Option Denotation) :=
  (readers.find? (·.1 = name)).map (·.2)

end Extended

mutual

/-- What a value stands for, unless something in it is malformed. -/
def denotation? : Bson → Option Denotation
  | .string s => some (.text s)
  | .date millis => some (.date millis)
  | .binary subtype bytes => some (.binary subtype bytes)
  | .array items => itemsDenotation? items
  | .document members => membersDenotation? members
  | _ => some .other

def itemsDenotation? : List Bson → Option Denotation
  | [] => some .other
  | item :: items => do
    let _ ← denotation? item
    itemsDenotation? items

/-- What a document with these members stands for: the form of the first member that has one.  Code
and its scope are a form of two members next to each other. -/
def membersDenotation? : List (String × Bson) → Option Denotation
  | [] => some .document
  | (name, value) :: members => do
    if name = "$code" then
      let _ ← decodeString value
      match members with
      | [] => return .other
      | (next, scope) :: _ =>
        if next = "$scope" ∧ (denotation? scope) = some .document then return .other else none
    else if name = "$scope" then
      match members with
      | [] => none
      | (next, code) :: _ =>
        if (denotation? value) = some .document ∧ next = "$code" then
          return (← Extended.readText? (fun _ ↦ true) code)
        else none
    else
      match Extended.reader? name with
      | some read => read value
      | none =>
        let _ ← denotation? value
        membersDenotation? members

end

end EventCatalog.Bson
