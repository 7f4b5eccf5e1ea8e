import EventCatalog.Cursor
import EventCatalog.Json.Basic

/-!
# Errors

What can go wrong with a request, and what a client is told about it.  Failures of the store keep
their details inside; every other error is answered with its own text.
-/

namespace EventCatalog

/-- Why a token was refused. -/
def CursorFault.message : CursorFault → String
  | tooLong => "token exceeds " ++ toString Cursor.maxTokenSize ++ " bytes"
  | notBase64 => "token is not valid base64"
  | malformedPayload => "malformed token payload"
  | invalidId text => "invalid last_id '" ++ text ++ "'"

inductive EventError where
  /-- A pagination token could not be read. -/
  | invalidCursor (detail : String)
  | validation (detail : String)
  | notFound (id : Uuid)
  | database (detail : String)
  /-- The caller gave up before the store answered. -/
  | cancelled
  | internal (detail : String)
  deriving DecidableEq, Repr

namespace EventError

def ofCursorFault (f : CursorFault) : EventError := .invalidCursor f.message

/-- A stored document of another shape than asked for, with what the decoder says of it. -/
def undecodable (text : String) : EventError := .database ("BSON deserialization error: " ++ text)

def message : EventError → String
  | invalidCursor detail => "Invalid pagination token: " ++ detail
  | validation detail => "Invalid input: " ++ detail
  | notFound id => "Event not found: " ++ toString id
  | database detail => "Database error: " ++ detail
  | cancelled => "Request cancelled"
  | internal detail => "Internal error: " ++ detail

/-- The machine-readable name of an error. -/
def name : EventError → String
  | invalidCursor _ => "INVALID_CURSOR"
  | validation _ => "VALIDATION_ERROR"
  | notFound _ => "NOT_FOUND"
  | database _ => "DATABASE_ERROR"
  | cancelled => "CANCELLED"
  | internal _ => "INTERNAL_ERROR"

/-- The HTTP status of an error; 499 says that the client closed the request. -/
def status : EventError → Nat
  | invalidCursor _ => 400
  | validation _ => 400
  | notFound _ => 404
  | database _ => 500
  | cancelled => 499
  | internal _ => 500

/-- The text that a client sees. -/
def publicMessage : EventError → String
  | database _ => "An internal error occurred"
  | internal _ => "An internal error occurred"
  | e => e.message

def toJson (e : EventError) : Json :=
  .object [("code", e.status), ("error", e.name), ("message", e.publicMessage)]

end EventError

end EventCatalog
