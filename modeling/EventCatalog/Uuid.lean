import EventCatalog.Text.Digit

/-!
# Universally Unique Identifiers

128-bit identifiers.  Their order is that of their sixteen bytes, the most significant first, which
is the order of the number they write.  An identifier is printed with lowercase digits and four
hyphens; it is read with or without hyphens, and the hyphenated form also in braces or after
`urn:uuid:`, with digits and scheme of either case.
-/

namespace EventCatalog

/-- A 128-bit identifier, as the number that its bytes write. -/
structure Uuid where
  value : BitVec 128
  deriving DecidableEq, Repr, Inhabited

namespace Uuid

def nil : Uuid := ⟨0⟩

/-- The layout of the identifier: the four bits after its first 48. -/
def version (id : Uuid) : Nat := (id.value.toNat >>> 76) % 16

/-- The number of milliseconds in front of a time-ordered identifier. -/
def millis (id : Uuid) : Nat := id.value.toNat >>> 80

/-- A time-ordered identifier: 48 bits of milliseconds, then the version 7 and the variant 2, with
74 bits of `entropy` around them. -/
def timeOrdered (millis entropy : Nat) : Uuid :=
  let random := BitVec.ofNat 74 entropy
  ⟨BitVec.ofNat 48 millis ++ 7#4 ++ random.extractLsb' 62 12 ++ 2#2 ++ random.extractLsb' 0 62⟩

/-- The 32 hexadecimal digits. -/
def hex (id : Uuid) : List Char := Text.digits 16 32 id.value.toNat

/-- Digits with hyphens after the eighth, twelfth, sixteenth and twentieth. -/
def hyphenate (ds : List Char) : List Char :=
  ds.take 8 ++ '-' :: (ds.drop 8).take 4 ++ '-' :: (ds.drop 12).take 4 ++ '-' ::
    (ds.drop 16).take 4 ++ '-' :: ds.drop 20

/-- The printed form: lowercase digits in groups of 8, 4, 4, 4 and 12. -/
def toChars (id : Uuid) : List Char := hyphenate id.hex

instance : ToString Uuid := ⟨fun id ↦ String.ofList id.toChars⟩

/-- The sixteen bytes, the most significant first. -/
def toBytes (id : Uuid) : List UInt8 :=
  (List.range 16).map fun i ↦ UInt8.ofNat (id.value.toNat >>> (8 * (15 - i)))

def ofBytes? (bytes : List UInt8) : Option Uuid :=
  if bytes.length = 16 then
    some ⟨BitVec.ofNat 128 (bytes.foldl (fun n b ↦ 256 * n + b.toNat) 0)⟩
  else none

def ofHex? (ds : List Char) : Option Uuid :=
  if ds.length = 32 then do
    let values ← ds.mapM Text.hexDigit?
    return ⟨BitVec.ofNat 128 (values.foldl (fun n d ↦ 16 * n + d) 0)⟩
  else none

/-- The digits of the hyphenated form, when its four hyphens stand where they belong. -/
def unhyphenate? (cs : List Char) : Option (List Char) :=
  let ds := cs.filter (· ≠ '-')
  if ds.length = 32 ∧ hyphenate ds = cs then some ds else none

/-- The inside of a form in braces or after the scheme; any other text as it is. -/
def unwrap (cs : List Char) : List Char :=
  match cs with
  | '{' :: rest => if rest.getLast? = some '}' then rest.dropLast else cs
  | _ =>
    if (cs.take 9).map Char.toLower = ['u', 'r', 'n', ':', 'u', 'u', 'i', 'd', ':'] then cs.drop 9
    else cs

/-- Reads an identifier.  Bare digits are read only as they are, never in braces or after the
scheme. -/
def ofChars? (cs : List Char) : Option Uuid :=
  ofHex? cs <|> (unhyphenate? (unwrap cs)).bind ofHex?

def ofString? (s : String) : Option Uuid := ofChars? s.toList

end Uuid

end EventCatalog
