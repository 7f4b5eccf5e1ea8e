/-!
# Media Types

A media type is written `kind/subtype`, and may go on with parameters.  The subtype may end in a
plus sign and a suffix that names the underlying format.  Letters are compared without regard to
case. Parameters have to be well formed, although nothing here depends on their values.
-/

namespace EventCatalog.Http

/-- A media type without its parameters, in lower case. -/
structure MediaType where
  kind : String
  subtype : String
  suffix : Option String
  deriving DecidableEq, Repr

namespace MediaType

/-- The characters of a token besides letters and digits. -/
def tokenMarks : List Char :=
  ['!', '#', '$', '%', '&', '\x27', '*', '+', '-', '.', '^', '_', '\x60', '|', '~']

def isTokenChar (c : Char) : Bool := c.isAlphanum || tokenMarks.contains c

def isQuotable (c : Char) : Bool := 31 < c.toNat && c.toNat ≠ 127

/-- Where a reader of parameters is. -/
inductive ParameterState where
  /-- Before a parameter. -/
  | start
  | name
  /-- Behind the equals sign. -/
  | valueStart
  | value
  /-- Behind the opening quote.  A quoted value is not empty. -/
  | quoteStart
  | quoted
  /-- Behind the closing quote. -/
  | quoteEnd
  deriving DecidableEq, Repr

namespace ParameterState

def step : ParameterState → Char → Option ParameterState
  | start, c => if c = ' ' then some start else if isTokenChar c then some name else none
  | name, c => if c = '=' then some valueStart else if isTokenChar c then some name else none
  | valueStart, c =>
    if c = '"' then some quoteStart else if isTokenChar c then some value else none
  | value, c => if c = ';' then some start else if isTokenChar c then some value else none
  | quoteStart, c => if isQuotable c then some quoted else none
  | quoted, c => if c = '"' then some quoteEnd else if isQuotable c then some quoted else none
  | quoteEnd, c => if c = ';' then some start else if c = ' ' then some quoteEnd else none

/-- Whether the parameters may end here. -/
def isFinal : ParameterState → Bool
  | start => true
  | valueStart => true
  | value => true
  | quoteEnd => true
  | name => false
  | quoteStart => false
  | quoted => false

end ParameterState

/-- Whether what follows the subtype is well formed: nothing, or a semicolon and then parameters. -/
def areParameters : List Char → Bool
  | [] => true
  | c :: rest => c = ';' && (rest.foldlM ParameterState.step .start).any (·.isFinal)

/-- Splits a subtype at its last plus sign, unless it starts with it. -/
def splitSuffix (cs : List Char) : List Char × Option (List Char) :=
  match cs.reverse.dropWhile (· ≠ '+') with
  | '+' :: front@(_ :: _) => (front.reverse, some (cs.reverse.takeWhile (· ≠ '+')).reverse)
  | _ => (cs, none)

def ofString? (s : String) : Option MediaType :=
  let cs := s.toLower.toList
  let kind := cs.takeWhile isTokenChar
  match cs.dropWhile isTokenChar with
  | '/' :: rest =>
    let subtype := rest.takeWhile isTokenChar
    if !kind.isEmpty && !subtype.isEmpty && areParameters (rest.dropWhile isTokenChar) then
      let parts := splitSuffix subtype
      some ⟨String.ofList kind, String.ofList parts.1, parts.2.map String.ofList⟩
    else none
  | _ => none

def isJson (m : MediaType) : Bool :=
  m.kind = "application" && (m.subtype = "json" || m.suffix = some "json")

end MediaType

end EventCatalog.Http
