import EventCatalog.Error
import EventCatalog.Http.Message

/-!
# Rejections

Why a request is turned down before an operation starts or when it fails, and the response that says
so.  Errors of operations are answered as JSON; a body or a path that cannot be read is answered as
plain text.
-/

namespace EventCatalog.Api

open Http

/-- Why a request is turned down. -/
inductive Rejection where
  | failed (e : EventError)
  /-- The piece of the path that names an event is no identifier. -/
  | invalidPath
  /-- The body is not announced as JSON. -/
  | unsupportedType
  | oversizedBody
  /-- The body is no JSON. -/
  | malformedBody
  /-- The body is JSON of another shape. -/
  | mismatchedBody
  deriving DecidableEq, Repr

def errorResponse (e : EventError) : Response := .ofJson e.status e.toJson

def Rejection.toResponse : Rejection → Response
  | failed e => errorResponse e
  | invalidPath => .ofText 400 "Invalid URL: the event identifier is not a UUID"
  | unsupportedType => .ofText 415 "Expected request with \x60Content-Type: application/json\x60"
  | oversizedBody => .ofText 413 "Failed to buffer the request body: length limit exceeded"
  | malformedBody => .ofText 400 "Failed to parse the request body as JSON"
  | mismatchedBody => .ofText 422 "Failed to deserialize the JSON body into the target type"

end EventCatalog.Api
