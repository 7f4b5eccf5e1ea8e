import EventCatalog.Bson.Extended

/-!
# Decoding BSON

Decoders from BSON values to the types of the library.  Dates and identifiers may be stored in an
extended form.  A record may be stored as a document or as the array of its fields in order.
Unknown members are passed over, whatever they hold, and so are surplus items of an array.
-/

namespace EventCatalog.Bson

def decodeInstant : Decoder Instant := fun v ↦
  match v.denotation? with
  | some (.date millis) => some (Instant.ofMillis millis)
  | _ => none

/-- An identifier: its bytes under the subtype for identifiers, or its text. -/
def decodeUuid : Decoder Uuid := fun v ↦
  match v.denotation? with
  | some (.binary subtype bytes) => if subtype = uuidSubtype then Uuid.ofBytes? bytes else none
  | some (.text s) => Uuid.ofString? s
  | _ => none

def decodeOption (decode : Decoder α) : Decoder (Option α)
  | .null => some none
  | v => (decode v).map some

def decodeList (decode : Decoder α) : Decoder (List α)
  | .array items => items.mapM decode
  | _ => none

def decodePair (decode : Decoder α) : Decoder (α × α)
  | .array (a :: b :: _) => do return (← decode a, ← decode b)
  | _ => none

/-- One of finitely many named values: its name, or a document whose only member has that name and
any value without a malformed form in it. -/
def decodeVariant (variants : List (String × α)) : Decoder α
  | .string name => (variants.find? (·.1 = name)).map (·.2)
  | .document [(name, value)] => do
    let _ ← value.denotation?
    (variants.find? (·.1 = name)).map (·.2)
  | _ => none

/-- A field of a record of type `σ`; one that is not required keeps its default when left out. -/
structure Field (σ : Type) where
  name : String
  required : Bool
  decode : σ → Decoder σ

def Field.of (name : String) (required : Bool) (decode : Decoder α) (set : σ → α → σ) : Field σ :=
  ⟨name, required, fun s v ↦ (decode v).map (set s)⟩

/-- Sets the known fields among the members of a document. -/
def decodeMembers (fields : List (Field σ)) : σ → Document → Option σ
  | s, [] => some s
  | s, (name, value) :: rest =>
    match fields.find? (·.name = name) with
    | none => decodeMembers fields s rest
    | some f => do decodeMembers fields (← f.decode s value) rest

/-- Sets the fields from the items of an array in order. -/
def decodeItems : List (Field σ) → σ → List Bson → Option σ
  | [], s, _ => some s
  | f :: fields, s, [] => if (f :: fields).any (·.required) then none else some s
  | f :: fields, s, item :: items => do decodeItems fields (← f.decode s item) items

/-- A record, starting from the value that holds all defaults. -/
def decodeRecord (fields : List (Field σ)) (blank : σ) : Decoder σ
  | .document members =>
    if fields.all fun f ↦ !f.required || members.any (·.1 = f.name) then
      decodeMembers fields blank members
    else none
  | .array items => decodeItems fields blank items
  | _ => none

end EventCatalog.Bson
