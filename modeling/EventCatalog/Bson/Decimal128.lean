import EventCatalog.Text.Digit

/-!
# Decimal Floating-Point Numbers

Which texts write a number of the 128-bit decimal format: 34 digits and a power of ten.  A text is
accepted only where the format holds its value exactly, so that digits beyond the format have to be
zeros and an exponent beyond the format has to be made up for by zeros.
-/

namespace EventCatalog.Bson.Decimal128

def maxDigits : Nat := 34
/-- The smallest exponent of the last digit. -/
def minExponent : Int := -6176
/-- The largest exponent of the last digit. -/
def maxExponent : Int := 6111

/-- The names of the numbers that have no digits. -/
def names : List String := ["nan", "snan", "inf", "infinity"]

/-- Digits and the exponent of the last one. -/
structure Scaled where
  digits : List Char
  exponent : Int

/-- The number without the digits behind the first `count`, which have to be zeros. -/
def Scaled.shorten? (count : Nat) (s : Scaled) : Option Scaled :=
  if (s.digits.drop count).all (· = '0') then
    some ⟨s.digits.take count, s.exponent + (s.digits.length - count : Nat)⟩
  else none

/-- The number without zeros in front. -/
def Scaled.trimmed (s : Scaled) : Scaled :=
  let digits := s.digits.dropWhile (· = '0')
  { s with digits := if digits.isEmpty && !s.digits.isEmpty then ['0'] else digits }

/-- The number with as many digits as the format has, when that loses nothing. -/
def Scaled.fitted? (s : Scaled) : Option Scaled := do
  let s ← s.trimmed.shorten? maxDigits
  if s.digits = ['0'] then return s
  else if s.exponent < minExponent then
    let excess := (minExponent - s.exponent).toNat
    if s.digits.length < excess then none else s.shorten? (s.digits.length - excess)
  else if maxExponent < s.exponent then
    if s.digits.length + (s.exponent - maxExponent).toNat ≤ maxDigits then return s else none
  else return s

/-- The largest exponent that is written. -/
def maxWritten : Nat := 32767

/-- The digits and the exponent of a number without its sign. -/
def readScaled? (cs : List Char) : Option Scaled := do
  let mantissa := cs.takeWhile (· ≠ 'e')
  let exponent ← match cs.dropWhile (· ≠ 'e') with
    | [] => some 0
    | _ :: rest => Text.readSigned? maxWritten (String.ofList rest)
  let whole := mantissa.takeWhile (· ≠ '.')
  let fraction := mantissa.drop (whole.length + 1)
  if exponent - fraction.length < -(maxWritten : Int) - 1 then none
  else return ⟨whole ++ fraction, exponent - fraction.length⟩

/-- Whether digits write a number.  A second sign may stand in front of them. -/
def areDigits : List Char → Bool
  | '+' :: digits => !digits.isEmpty && digits.all Char.isDigit
  | digits => !digits.isEmpty && digits.all Char.isDigit

/-- Whether a text writes a number of the format. -/
def isWritten (s : String) : Bool :=
  let lower := s.toList.map Char.toLower
  let cs := match lower with
    | '+' :: rest => rest
    | '-' :: rest => rest
    | cs => cs
  names.contains (String.ofList cs) ||
    ((readScaled? cs).bind Scaled.fitted?).any fun s ↦ areDigits s.digits

end EventCatalog.Bson.Decimal128
