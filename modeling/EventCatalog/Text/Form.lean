import EventCatalog.Text.Digit
import EventCatalog.Text.Split
import EventCatalog.Text.Utf8

/-!
# Percent Encoding and Form Pairs

Percent escapes in paths, and the `name=value` pairs of a form or a query string.  A percent sign
that two hexadecimal digits do not follow stands for itself.  In a form a plus sign stands for a
space, which is decided before escapes are read, so that an escaped plus sign survives.
-/

namespace EventCatalog.Text

/-- Reads the percent escapes of a byte sequence. -/
def percentDecode : List UInt8 → List UInt8
  | [] => []
  | [b] => [b]
  | [b, c] => [b, c]
  | b :: high :: low :: rest =>
    if b = '%'.toUInt8 then
      match hexDigit? (Char.ofUInt8 high), hexDigit? (Char.ofUInt8 low) with
      | some high, some low => UInt8.ofNat (16 * high + low) :: percentDecode rest
      | _, _ => b :: percentDecode (high :: low :: rest)
    else b :: percentDecode (high :: low :: rest)

/-- A form's name or value as text; bytes that are no UTF-8 become U+FFFD. -/
def formText (bytes : List UInt8) : String :=
  ofBytesLossy (percentDecode (bytes.map fun b ↦ if b = '+'.toUInt8 then ' '.toUInt8 else b))

/-- The pairs of a form: runs between ampersands, each split at its first equals sign.  A run
without one has the empty value; an empty run is no pair. -/
def formPairs (bytes : List UInt8) : List (String × String) :=
  ((bytes.splitOn '&'.toUInt8).filter (!·.isEmpty)).map fun run ↦
    let name := run.takeWhile (· != '='.toUInt8)
    (formText name, formText (run.drop (name.length + 1)))

end EventCatalog.Text
