/-!
# UTF-8

Texts as bytes and bytes as texts.  Bytes are read by a machine that consumes one byte at a time
and either delivers a character or gives up on the longest run that could still have become one.
A strict reader refuses text with such a run; a lossy reader writes U+FFFD for it.
-/

namespace EventCatalog.Text

/-- The UTF-8 form of a text. -/
def toBytes (s : String) : List UInt8 :=
  s.toList.flatMap String.utf8EncodeChar

/-- A character begun: the value of the bits read so far, how many continuation bytes follow the
next one, and the range that the next byte has to lie in. -/
structure PartialChar where
  value : Nat
  following : Nat
  low : Nat
  high : Nat
  deriving DecidableEq, Repr

/-- What the first byte of a sequence promises. -/
inductive LeadByte where
  | complete (c : Char)
  | begun (p : PartialChar)
  | invalid
  deriving DecidableEq, Repr

/-- Classifies a first byte.  The range for the second byte excludes overlong forms, surrogates and
values beyond U+10FFFF. -/
def leadByte (b : UInt8) : LeadByte :=
  let n := b.toNat
  if n < 0x80 then .complete (Char.ofNat n)
  else if n < 0xC2 then .invalid
  else if n < 0xE0 then .begun ⟨n - 0xC0, 0, 0x80, 0xBF⟩
  else if n < 0xF0 then
    .begun ⟨n - 0xE0, 1, if n = 0xE0 then 0xA0 else 0x80, if n = 0xED then 0x9F else 0xBF⟩
  else if n < 0xF5 then
    .begun ⟨n - 0xF0, 2, if n = 0xF0 then 0x90 else 0x80, if n = 0xF4 then 0x8F else 0xBF⟩
  else .invalid

/-- The partial character, grown by a continuation byte. -/
def PartialChar.grow (p : PartialChar) (b : UInt8) : LeadByte :=
  let value := 64 * p.value + (b.toNat - 0x80)
  match p.following with
  | 0 => .complete (Char.ofNat value)
  | following + 1 => .begun ⟨value, following, 0x80, 0xBF⟩

/-- Whether a byte continues the partial character. -/
def PartialChar.accepts (p : PartialChar) (b : UInt8) : Bool :=
  p.low ≤ b.toNat && b.toNat ≤ p.high

/-- The characters of a byte sequence; `none` stands for each maximal run that is no character. -/
def scan : Option PartialChar → List UInt8 → List (Option Char)
  | none, [] => []
  | some _, [] => [none]
  | none, b :: bs =>
    match leadByte b with
    | .complete c => some c :: scan none bs
    | .begun p => scan (some p) bs
    | .invalid => none :: scan none bs
  | some p, b :: bs =>
    if p.accepts b then
      match p.grow b with
      | .complete c => some c :: scan none bs
      | .begun q => scan (some q) bs
      | .invalid => none :: scan none bs
    else
      none :: match leadByte b with
        | .complete c => some c :: scan none bs
        | .begun q => scan (some q) bs
        | .invalid => none :: scan none bs

/-- The characters of well-formed UTF-8. -/
def charsOfBytes? (bytes : List UInt8) : Option (List Char) :=
  (scan none bytes).mapM id

def ofBytes? (bytes : List UInt8) : Option String :=
  (charsOfBytes? bytes).map String.ofList

/-- The text of any bytes, with U+FFFD for what is no character. -/
def ofBytesLossy (bytes : List UInt8) : String :=
  String.ofList ((scan none bytes).map (·.getD '\uFFFD'))

def isAscii (b : UInt8) : Bool :=
  b.toNat < 0x80

/-- ASCII bytes are read one by one. -/
theorem scan_cons_of_ascii {b : UInt8} (h : isAscii b = true) (bs : List UInt8) :
    scan none (b :: bs) = some (Char.ofNat b.toNat) :: scan none bs := by
  have hb : b.toNat < 0x80 := by simpa [isAscii] using h
  simp [scan, leadByte, hb]

end EventCatalog.Text
