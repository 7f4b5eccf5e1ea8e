import EventCatalog.Http.ContentCoding
import EventCatalog.Http.Header
import EventCatalog.Http.Target
import EventCatalog.Json.Basic

/-!
# Requests and Responses

The messages of the HTTP interface, as far as an operation depends on them.  A response holds its
body before the content coding is applied.
-/

namespace EventCatalog.Http

/-- The method of a request.  Names are compared with regard to case. -/
inductive Method where
  | get
  | head
  | post
  | other (name : String)
  deriving DecidableEq, Repr

def Method.ofString : String → Method
  | "GET" => get
  | "HEAD" => head
  | "POST" => post
  | name => other name

def Method.toString : Method → String
  | get => "GET"
  | head => "HEAD"
  | post => "POST"
  | other name => name

structure Request where
  method : Method
  target : Target
  headers : List Header
  body : List UInt8
  deriving DecidableEq, Repr

inductive Body where
  | empty
  | text (s : String)
  | json (j : Json)

/-- The number of bytes of a body. -/
def Body.size : Body → Nat
  | empty => 0
  | text s => s.utf8ByteSize
  | json j => j.print.utf8ByteSize

structure Response where
  status : Nat
  contentType : Option String
  contentCoding : ContentCoding
  /-- The methods that the resource has, when it is said. -/
  allow : Option (List Method)
  body : Body

namespace Response

def ofStatus (status : Nat) : Response := ⟨status, none, .identity, none, .empty⟩

def ofText (status : Nat) (s : String) : Response :=
  ⟨status, some "text/plain; charset=utf-8", .identity, none, .text s⟩

def ofJson (status : Nat) (j : Json) : Response :=
  ⟨status, some "application/json", .identity, none, .json j⟩

/-- The smallest body that is worth a coding. -/
def minCodedSize : Nat := 32

/-- The response in the coding that suits the client. -/
def coded (r : Response) (headers : List Header) : Response :=
  if r.body.size < minCodedSize then r
  else { r with contentCoding := ContentCoding.preferred headers }

/-- The response to a method: a `HEAD` request gets no body. -/
def forMethod (r : Response) : Method → Response
  | .head => { r with body := .empty }
  | _ => r

end Response

end EventCatalog.Http
