import EventCatalog.Json.Reading

/-!
# Decoding JSON

Decoders from readings to the types of the library.  They go through a reading from front to back
and stop at the first fault, which is either one of form (the text is no JSON) or one of content
(the text is JSON, but not of the asked shape).

A record may be written as an object or as the array of its fields in order.  In an object unknown
names are passed over and a known name may stand only once; an array may leave out fields at its end
only where the field has a default.
-/

namespace EventCatalog.Json

/-- Why a reading has no value of the asked type. -/
inductive DecodeFault where
  /-- The text is no JSON. -/
  | malformed
  /-- The text is JSON of another shape. -/
  | mismatched
  deriving DecidableEq, Repr

abbrev Decoder (α : Type) := Reading → Except DecodeFault α

/-- The fault of a reading that is not of the asked type.  A string or a number that has no value of
its own is a fault of form; arrays and objects are not looked into. -/
def typeFault : Reading → DecodeFault
  | .fault => .malformed
  | .string parts => if (quotedText? parts).isSome then .mismatched else .malformed
  | .number n => if n.value?.isSome then .mismatched else .malformed
  | _ => .mismatched

def decodeString : Decoder String
  | .string parts =>
    match quotedText? parts with
    | some s => .ok s
    | none => .error .malformed
  | r => .error (typeFault r)

/-- A text that a further reader accepts. -/
def decodeText (read : String → Option α) : Decoder α := fun r ↦ do
  match read (← decodeString r) with
  | some a => .ok a
  | none => .error .mismatched

/-- A floating-point number; integers are rounded to one. -/
def decodeFloat : Decoder Binary64
  | .number n =>
    match n.value? with
    | some value => .ok value.toBinary64
    | none => .error .malformed
  | r => .error (typeFault r)

/-- An unsigned integer of at most `bound`, written without point and exponent. -/
def decodeUnsigned (bound : Nat) : Decoder Nat
  | .number n =>
    match n.value? with
    | some (.natural n) => if n ≤ bound then .ok n else .error .mismatched
    | some _ => .error .mismatched
    | none => .error .malformed
  | r => .error (typeFault r)

def decodeOption (decode : Decoder α) : Decoder (Option α)
  | .null => .ok none
  | r => (decode r).map some

def decodeList (decode : Decoder α) : Decoder (List α)
  | .array items => items.mapM decode
  | r => .error (typeFault r)

def variantOf (variants : List (String × α)) (name : String) : Except DecodeFault α :=
  match variants.find? (·.1 = name) with
  | some (_, a) => .ok a
  | none => .error .mismatched

/-- One of finitely many named values: its name, or an object with its name and `null`.  Any other
kind of value and any other name count as faults of form. -/
def decodeVariant (variants : List (String × α)) : Decoder α
  | .string parts => do variantOf variants (← decodeString (.string parts))
  | .object [] => .error .malformed
  | .object ((name, value) :: rest) => do
    let a ← variantOf variants (← decodeString name)
    match value with
    | .null => if rest.isEmpty then .ok a else .error .malformed
    | value => .error (typeFault value)
  | _ => .error .malformed

/-- Whether a field may be left out. -/
inductive Presence where
  | required
  /-- In an object, but not in an array. -/
  | named
  /-- In an object, and at the end of an array. -/
  | defaulted
  deriving DecidableEq, Repr

/-- A field of a record of type `σ`. -/
structure Field (σ : Type) where
  name : String
  presence : Presence
  decode : σ → Decoder σ

def Field.of (name : String) (presence : Presence) (decode : Decoder α) (set : σ → α → σ) :
    Field σ :=
  ⟨name, presence, fun s r ↦ (decode r).map (set s)⟩

/-- The fields of an object.  `seen` holds the names met so far. -/
def decodeMembers (fields : List (Field σ)) :
    (seen : List String) → σ → List (Reading × Reading) → Except DecodeFault σ
  | seen, s, [] =>
    if fields.all fun f ↦ f.presence ≠ .required || seen.contains f.name then .ok s
    else .error .mismatched
  | seen, s, (name, value) :: rest =>
    match name with
    | .string parts =>
      match quotedText? parts with
      | none => .error .malformed
      | some name =>
        match fields.find? (·.name = name) with
        | none => decodeMembers fields seen s rest
        | some f =>
          if seen.contains name then .error .mismatched
          else
            match f.decode s value with
            | .error e => .error e
            | .ok s => decodeMembers fields (name :: seen) s rest
    | _ => .error .malformed

/-- The fields of an array in order. -/
def decodeItems : List (Field σ) → σ → List Reading → Except DecodeFault σ
  | [], s, [] => .ok s
  | [], _, _ :: _ => .error .malformed
  | f :: fields, s, [] =>
    if (f :: fields).all (·.presence = .defaulted) then .ok s else .error .mismatched
  | f :: fields, s, item :: items => do decodeItems fields (← f.decode s item) items

/-- A record, starting from the value that holds all defaults. -/
def decodeRecord (fields : List (Field σ)) (blank : σ) : Decoder σ
  | .object members => decodeMembers fields [] blank members
  | .array items => decodeItems fields blank items
  | r => .error (typeFault r)

/-- A value from a whole text. -/
def decodeBytes (decode : Decoder α) (bytes : List UInt8) : Except DecodeFault α := do
  let source := readBytes bytes
  let a ← decode source.root
  if source.endsWithRoot then .ok a else .error .malformed

end EventCatalog.Json
