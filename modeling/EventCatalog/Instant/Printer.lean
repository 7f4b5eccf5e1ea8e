import EventCatalog.Instant.Basic
import EventCatalog.Text.Digit

/-!
# Printing Instants

RFC 3339 in UTC: `Z` at the end, and as many groups of three fraction digits as make the text exact.
A year outside 0 to 9999 has a sign and at least four digits; a leap second is second 60.
-/

namespace EventCatalog.Instant

/-- Four digits, or a sign and at least four digits outside 0 to 9999. -/
def yearChars (year : Int) : List Char :=
  if 0 ≤ year ∧ year ≤ 9999 then Text.padded 4 year.toNat
  else (if year < 0 then '-' else '+') :: Text.padded 4 year.natAbs

/-- The fraction of a second: none, or a point and three, six or nine digits. -/
def fractionChars (nanos : Nat) : List Char :=
  if nanos = 0 then []
  else if nanos % 1000000 = 0 then '.' :: Text.digits 10 3 (nanos / 1000000)
  else if nanos % 1000 = 0 then '.' :: Text.digits 10 6 (nanos / 1000)
  else '.' :: Text.digits 10 9 nanos

/-- Year, month and day with hyphens. -/
def dateChars (d : Date) : List Char :=
  yearChars d.year ++ '-' :: Text.digits 10 2 d.month ++ '-' :: Text.digits 10 2 d.day

/-- Hours, minutes and seconds with colons; `seconds` counts from midnight. -/
def clockChars (seconds : Nat) (leap : Bool) : List Char :=
  Text.digits 10 2 (seconds / 3600) ++ ':' :: Text.digits 10 2 (seconds / 60 % 60) ++
    ':' :: Text.digits 10 2 (seconds % 60 + if leap then 1 else 0)

def toChars (t : Instant) : List Char :=
  let leap := decide (1000000000 ≤ t.nanos)
  dateChars (Date.ofDayNumber (t.seconds / 86400)) ++
    'T' :: clockChars (t.seconds % 86400).toNat leap ++
    fractionChars (t.nanos % 1000000000) ++ ['Z']

instance : ToString Instant := ⟨fun t ↦ String.ofList t.toChars⟩

end EventCatalog.Instant
