import EventCatalog.Api.Rejection
import EventCatalog.Http.MediaType
import EventCatalog.Json.Decoder
import EventCatalog.Query.Basic
import EventCatalog.Text.Blank
import EventCatalog.Text.Form

/-!
# Inputs of Operations

What an operation takes from a request: the tenant and the acting user from header fields, the
identifier of an event from the path, parameters from the query and a record from the body.
-/

namespace EventCatalog.Api.Input

open Http

def tenantField : String := "x-tenant-id"

def actorField : String := "x-actor-id"

/-- The text of a header field without blanks at its ends, unless nothing is left. -/
def field? (name : String) (request : Request) : Option String :=
  ((Header.firstText? name request.headers).map Text.trim).filter (!·.isEmpty)

def tenant (request : Request) : Except Rejection String :=
  match field? tenantField request with
  | some tenant => .ok tenant
  | none => .error (.failed (.validation ("missing " ++ tenantField ++ " header")))

/-- The user who makes a change, when one is named. -/
def actor? (request : Request) : Option String := field? actorField request

def filter (settings : PageSettings) (request : Request) : Except Rejection EventFilter :=
  ((EventQuery.ofQueryString request.target.queryBytes).bind (·.toFilter settings)).mapError .failed

/-- The identifier that a piece of a path writes. -/
def identifier (segment : String) : Except Rejection Uuid :=
  match (Text.ofBytes? (Text.percentDecode (Text.toBytes segment))).bind Uuid.ofString? with
  | some id => .ok id
  | none => .error .invalidPath

/-- Whether the body is announced as JSON. -/
def isJson (request : Request) : Bool :=
  ((Header.firstText? "content-type" request.headers).bind MediaType.ofString?).any (·.isJson)

def maxBodySize : Nat := 2 * 1024 * 1024

def record (decode : Json.Decoder α) (request : Request) : Except Rejection α :=
  if !isJson request then .error .unsupportedType
  else if maxBodySize < request.body.length then .error .oversizedBody
  else
    match Json.decodeBytes decode request.body with
    | .ok a => .ok a
    | .error .malformed => .error .malformedBody
    | .error .mismatched => .error .mismatchedBody

end EventCatalog.Api.Input
