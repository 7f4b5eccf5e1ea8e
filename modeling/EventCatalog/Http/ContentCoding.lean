import EventCatalog.Http.Header
import EventCatalog.Text.Blank
import EventCatalog.Text.Digit
import EventCatalog.Text.Split

/-!
# Content Codings

The codings in which a body may be sent, and the choice among those that a client accepts.  A client
lists codings with weights; the heaviest wins, and of equally heavy ones the one that compresses
better.  What the list says of other codings, or without a valid weight, is passed over.
-/

namespace EventCatalog.Http

inductive ContentCoding where
  | identity
  | deflate
  | gzip
  | brotli
  | zstd
  deriving DecidableEq, Repr

namespace ContentCoding

def name : ContentCoding → String
  | identity => "identity"
  | deflate => "deflate"
  | gzip => "gzip"
  | brotli => "br"
  | zstd => "zstd"

/-- The place of a coding among equally heavy ones. -/
def preference : ContentCoding → Nat
  | identity => 0
  | deflate => 1
  | gzip => 2
  | brotli => 3
  | zstd => 4

def ofName? (name : String) : Option ContentCoding :=
  match name.toLower with
  | "identity" => some identity
  | "deflate" => some deflate
  | "gzip" => some gzip
  | "x-gzip" => some gzip
  | "br" => some brotli
  | "zstd" => some zstd
  | _ => none

/-- Reads up to three digits behind the point of a weight, as thousandths. -/
def weightFraction : (factor : Nat) → List Char → Option Nat
  | _, [] => some 0
  | factor, c :: rest => do
    let digit ← Text.decimalDigit? c
    if factor = 0 then none else return factor * digit + (← weightFraction (factor / 10) rest)

/-- A weight `q=n` in thousandths.  It lies between zero and one and has at most three places. -/
def weight? (s : String) : Option Nat :=
  match s.toList with
  | q :: '=' :: digit :: rest =>
    if (q = 'q' || q = 'Q') && (digit = '0' || digit = '1') then
      let whole := if digit = '1' then 1000 else 0
      match rest with
      | [] => some whole
      | '.' :: places => ((weightFraction 100 places).map (whole + ·)).filter (· ≤ 1000)
      | _ => none
    else none
  | _ => none

/-- A coding and its weight, which is one unless it is given. -/
def weighted? (entry : String) : Option (ContentCoding × Nat) :=
  match Text.splitFirst? ';' entry.toList with
  | none => (ofName? (Text.trim entry)).map (·, 1000)
  | some (name, weight) => do
    let coding ← ofName? (Text.trim (String.ofList name))
    return (coding, ← weight? (Text.trim (String.ofList weight)))

/-- The codings that a client lists, with their weights. -/
def listed (headers : List Header) : List (ContentCoding × Nat) :=
  ((Header.named "accept-encoding" headers).filterMap Header.text?).flatMap fun s ↦
    (Text.splitText ',' s).filterMap weighted?

/-- Whether a weighted coding is at least as welcome as another one. -/
def isAsWelcome (a b : ContentCoding × Nat) : Bool :=
  b.2 < a.2 || (a.2 = b.2 && b.1.preference ≤ a.1.preference)

/-- The coding for a client.  A coding of weight zero is refused. -/
def preferred (headers : List Header) : ContentCoding :=
  let accepted := (listed headers).filter (0 < ·.2)
  (accepted.foldl (fun best a ↦ if isAsWelcome a best then a else best) (identity, 0)).1

end ContentCoding

end EventCatalog.Http
