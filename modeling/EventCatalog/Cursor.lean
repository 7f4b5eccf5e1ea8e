import EventCatalog.Instant.Printer
import EventCatalog.Instant.Reader
import EventCatalog.Json.Basic
import EventCatalog.Json.Decoder
import EventCatalog.Text.Base64
import EventCatalog.Uuid

/-!
# Pagination Cursors

The position of the last row a client has seen, and its text form, the token: the URL-safe Base64
form of a JSON record with an identifier and a timestamp.  A token is neither signed nor encrypted.
Reading is more lenient than writing: filling may be left out, fields may be left out, and an empty
identifier means that there is no boundary.
-/

namespace EventCatalog

/-- The position of the last row a client has seen. -/
structure Cursor where
  /-- The boundary; without one the cursor only selects the mode of paging. -/
  lastId : Option Uuid
  /-- When that row was created.  It takes no part in the boundary. -/
  timestamp : Instant
  deriving DecidableEq, Repr

/-- Why a token is no cursor. -/
inductive CursorFault where
  | tooLong
  | notBase64
  | malformedPayload
  | invalidId (text : String)
  deriving DecidableEq, Repr

namespace Cursor

/-- The largest token that is read, in bytes. -/
def maxTokenSize : Nat := 4096

/-- The record inside a token. -/
structure Payload where
  lastId : String
  timestamp : Instant
  deriving DecidableEq, Repr

/-- The fields of the record; both have defaults. -/
def payloadFields : List (Json.Field Payload) :=
  [.of "last_id" .defaulted Json.decodeString fun p id ↦ { p with lastId := id },
    .of "timestamp" .defaulted (Json.decodeText Instant.ofString?)
      fun p time ↦ { p with timestamp := time }]

def payloadJson (c : Cursor) : Json :=
  .object [("last_id", .string ((c.lastId.map toString).getD "")),
    ("timestamp", .string (toString c.timestamp))]

def encode (c : Cursor) : String :=
  String.ofList (Text.Base64.encode (Text.toBytes (Json.print c.payloadJson)))

def ofPayload (p : Payload) : Except CursorFault Cursor :=
  if p.lastId.isEmpty then .ok ⟨none, p.timestamp⟩
  else
    match Uuid.ofString? p.lastId with
    | some id => .ok ⟨some id, p.timestamp⟩
    | none => .error (.invalidId p.lastId)

def decode (token : String) : Except CursorFault Cursor :=
  if maxTokenSize < token.utf8ByteSize then .error .tooLong
  else
    match Text.Base64.decode? token.toList with
    | none => .error .notBase64
    | some bytes =>
      match Json.decodeBytes (Json.decodeRecord payloadFields ⟨"", Instant.epoch⟩) bytes with
      | .error _ => .error .malformedPayload
      | .ok payload => ofPayload payload

end Cursor

end EventCatalog
