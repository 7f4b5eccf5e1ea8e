import EventCatalog.Json.Basic

/-!
# Schemas

Schemas of the values that an interface takes and gives, and their form in an OpenAPI 3.1 document.
Records and enumerations stand there under their names, and wherever one of them occurs it is
referred to.  A field that may be absent may also be `null`: a plain type then lists `null` beside
itself, a reference becomes an alternative to `null`.
-/

namespace EventCatalog.OpenApi

inductive ValueType where
  | boolean
  | string
  | uuid
  | dateTime
  | double
  /-- An unsigned integer of 32 bits at most. -/
  | unsigned32
  /-- An unsigned integer of 64 bits. -/
  | unsigned64
  /-- A record or an enumeration by its name. -/
  | named (name : String)
  | list (item : ValueType)
  deriving DecidableEq, Repr

/-- A remark as a member of an object. -/
def remark (text : Option String) : List (String × Json) :=
  Json.optionalMember "description" (text.map .string)

namespace ValueType

/-- The kind of a plain type, and the members that restrict it. -/
def plain? : ValueType → Option (String × List (String × Json))
  | boolean => some ("boolean", [])
  | string => some ("string", [])
  | uuid => some ("string", [("format", "uuid")])
  | dateTime => some ("string", [("format", "date-time")])
  | double => some ("number", [("format", "double")])
  | unsigned32 => some ("integer", [("format", "int32"), ("minimum", .int 0)])
  | unsigned64 => some ("integer", [("format", "int64"), ("minimum", .int 0)])
  | named _ => none
  | list _ => none

/-- The reference to a record or an enumeration. -/
def reference (name : String) : String × Json :=
  ("$ref", .string ("#/components/schemas/" ++ name))

/-- The members of a value's schema, with a remark. -/
def members (note : Option String) : ValueType → List (String × Json)
  | named name => reference name :: remark note
  | list item =>
    ("type", "array") :: ("items", .object (members none item)) :: remark note
  | boolean => plainMembers boolean
  | string => plainMembers string
  | uuid => plainMembers uuid
  | dateTime => plainMembers dateTime
  | double => plainMembers double
  | unsigned32 => plainMembers unsigned32
  | unsigned64 => plainMembers unsigned64
where
  plainMembers (t : ValueType) : List (String × Json) :=
    match t.plain? with
    | some (kind, rest) => ("type", .string kind) :: rest ++ remark note
    | none => []

def toJson (t : ValueType) (note : Option String) : Json := .object (t.members note)

/-- The schema of a value that may be `null`. -/
def toNullableJson (t : ValueType) (note : Option String) : Json :=
  match t.plain? with
  | some (kind, rest) => .object (("type", .array [.string kind, "null"]) :: rest ++ remark note)
  | none => .object [("oneOf", .array [.object [("type", "null")], t.toJson note])]

end ValueType

/-- Whether a field of a record may be left out. -/
inductive FieldPresence where
  | required
  /-- It may be left out or `null`. -/
  | optional
  /-- It may be left out, but not `null`. -/
  | defaulted
  deriving DecidableEq, Repr

structure FieldSchema where
  name : String
  presence : FieldPresence
  type : ValueType
  note : Option String
  deriving DecidableEq, Repr

def FieldSchema.toJson (f : FieldSchema) : Json :=
  if f.presence = .optional then f.type.toNullableJson f.note else f.type.toJson f.note

/-- A type that stands in the document under its name. -/
inductive NamedSchema where
  | record (name : String) (note : Option String) (fields : List FieldSchema)
  | enumeration (name : String) (note : Option String) (variants : List String)
  deriving DecidableEq, Repr

namespace NamedSchema

def name : NamedSchema → String
  | record name _ _ => name
  | enumeration name _ _ => name

def toJson : NamedSchema → Json
  | record _ note fields =>
    let required := (fields.filter (·.presence = .required)).map fun f ↦ Json.string f.name
    .object (("type", .string "object") :: remark note ++ [("required", .array required),
      ("properties", .object (fields.map fun f ↦ (f.name, f.toJson)))])
  | enumeration _ note variants =>
    .object (("type", .string "string") :: remark note ++ [("enum", .array (variants.map .string))])

end NamedSchema

def required (name : String) (type : ValueType) (note : Option String := none) : FieldSchema :=
  ⟨name, .required, type, note⟩

/-- A field that may be left out or `null`. -/
def optional (name : String) (type : ValueType) (note : Option String := none) : FieldSchema :=
  ⟨name, .optional, type, note⟩

/-- A field that may be left out. -/
def defaulted (name : String) (type : ValueType) (note : Option String := none) : FieldSchema :=
  ⟨name, .defaulted, type, note⟩

end EventCatalog.OpenApi
