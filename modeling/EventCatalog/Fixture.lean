import EventCatalog.Text.Utf8
import EventCatalog.Uuid

/-!
# Fixtures

Names for the data of one test on a shared database.  They follow from a seed, and the seed is a
hash of the name of the test: the same test finds its own data again, and tests share a tenant only
where the hashes of their names collide.  Beside them stand the two checks that tests make on what
they get back.
-/

namespace EventCatalog

/-- The state of a SipHash computation. -/
structure SipHash where
  v0 : UInt64
  v1 : UInt64
  v2 : UInt64
  v3 : UInt64

namespace SipHash

/-- The start with a key of zeros. -/
def start : SipHash :=
  ⟨0x736f6d6570736575, 0x646f72616e646f6d, 0x6c7967656e657261, 0x7465646279746573⟩

def rotate (x count : UInt64) : UInt64 := x <<< count ||| x >>> (64 - count)

def round (s : SipHash) : SipHash :=
  let v0 := s.v0 + s.v1
  let v1 := rotate s.v1 13 ^^^ v0
  let v0 := rotate v0 32
  let v2 := s.v2 + s.v3
  let v3 := rotate s.v3 16 ^^^ v2
  let v0 := v0 + v3
  let v3 := rotate v3 21 ^^^ v0
  let v2 := v2 + v1
  let v1 := rotate v1 17 ^^^ v2
  ⟨v0, v1, rotate v2 32, v3⟩

/-- Takes in a word, with one round. -/
def absorb (s : SipHash) (word : UInt64) : SipHash :=
  let mixed := { s with v3 := s.v3 ^^^ word }.round
  { mixed with v0 := mixed.v0 ^^^ word }

/-- The hash, after three more rounds. -/
def finish (s : SipHash) : UInt64 :=
  let last := { s with v2 := s.v2 ^^^ 0xff }.round.round.round
  last.v0 ^^^ last.v1 ^^^ last.v2 ^^^ last.v3

/-- The word of up to eight bytes, the least significant one first. -/
def wordOf (bytes : List UInt8) : UInt64 := bytes.foldr (fun b word ↦ word <<< 8 ||| b.toUInt64) 0

/-- Takes in bytes, eight at a time.  The last word holds what is left of them and, in its highest
byte, how many they are in all. -/
def absorbBytes (total : Nat) : SipHash → List UInt8 → SipHash
  | s, b0 :: b1 :: b2 :: b3 :: b4 :: b5 :: b6 :: b7 :: rest =>
    absorbBytes total (s.absorb (wordOf [b0, b1, b2, b3, b4, b5, b6, b7])) rest
  | s, rest => s.absorb (UInt64.ofNat (total % 256) <<< 56 ||| wordOf rest)

def ofBytes (bytes : List UInt8) : UInt64 := (absorbBytes bytes.length start bytes).finish

end SipHash

/-- The source of the names of one test. -/
structure Fixture where
  seed : UInt64
  deriving DecidableEq, Repr

namespace Fixture

/-- The fixture of the test of a name.  A byte that is in no text ends the name. -/
def ofTestName (name : String) : Fixture := ⟨SipHash.ofBytes (Text.toBytes name ++ [0xff])⟩

def tenantId (f : Fixture) : String := "tenant-" ++ toString f.seed

def actorId (f : Fixture) : String := "actor-" ++ toString f.seed

/-- A name for one piece of data; `kind` and `detail` tell it from others. -/
def name (f : Fixture) (kind detail : String) : String :=
  "test-" ++ kind ++ "-" ++ toString f.seed ++ "-" ++ detail

end Fixture

/-- What a check found. -/
inductive CheckFailure where
  | repeated (context : String) (id : Uuid)
  /-- There was no value where one was expected. -/
  | absent (context : String)
  deriving DecidableEq, Repr

namespace CheckFailure

def message : CheckFailure → String
  | repeated context id => context ++ ": id " ++ toString id ++ " returned more than once"
  | absent context => context ++ ": expected Some, got None"

end CheckFailure

/-- The first element that stands further in front as well; `seen` are those in front. -/
def firstRepeated? [DecidableEq α] : (seen : List α) → List α → Option α
  | _, [] => none
  | seen, a :: as => if a ∈ seen then some a else firstRepeated? (a :: seen) as

def checkDistinct (context : String) (ids : List Uuid) : Except CheckFailure Unit :=
  match firstRepeated? [] ids with
  | some id => .error (.repeated context id)
  | none => .ok ()

def checkPresent (context : String) (value : Option α) : Except CheckFailure α :=
  match value with
  | some a => .ok a
  | none => .error (.absent context)

end EventCatalog
