import EventCatalog.Instant.Reader

/-!
# Reading Instants Strictly

RFC 3339 with all of its digits: a year of four, every other number of two.  Any one ASCII character
parts the date from the time, and the offset is `Z` or a sign with hours and minutes.  There are no
leap seconds here: one at the end of a month counts as the last nanosecond before it, and no other
can be written.
-/

namespace EventCatalog.Instant.Strict

/-- A number of exactly `count` digits within bounds. -/
def readField? (count low high : Nat) (cs : List Char) : Option (Nat × List Char) :=
  let (n, rest) := spanNumber count 0 cs
  if rest.length + count = cs.length ∧ low ≤ n ∧ n ≤ high then some (n, rest) else none

def readDivider? (divider : Char) : List Char → Option (List Char)
  | c :: rest => if c = divider then some rest else none
  | [] => none

def readDate? (cs : List Char) : Option (Date × List Char) := do
  let (year, rest) ← readField? 4 0 9999 cs
  let (month, rest) ← readField? 2 1 12 (← readDivider? '-' rest)
  let (day, rest) ← readField? 2 1 31 (← readDivider? '-' rest)
  return (⟨year, month, day⟩, rest)

/-- Hour, minute and second with a fraction; the second may be 60. -/
def readTime? (cs : List Char) : Option (TimeOfDay × List Char) := do
  let (hour, rest) ← readField? 2 0 23 cs
  let (minute, rest) ← readField? 2 0 59 (← readDivider? ':' rest)
  let (second, rest) ← readField? 2 0 60 (← readDivider? ':' rest)
  let (nanos, rest) ← readFraction? rest
  return (⟨hour, minute, second, nanos⟩, rest)

def readOffsetSeconds? (cs : List Char) : Option (Int × List Char) := do
  let (hours, rest) ← readField? 2 0 23 cs
  let (minutes, rest) ← readField? 2 0 59 (← readDivider? ':' rest)
  return (hours * 3600 + minutes * 60, rest)

def readOffset? : List Char → Option (Int × List Char)
  | 'Z' :: rest => some (0, rest)
  | 'z' :: rest => some (0, rest)
  | '+' :: rest => readOffsetSeconds? rest
  | '-' :: rest => (readOffsetSeconds? rest).map fun (n, rest) ↦ (-n, rest)
  | _ => none

/-- Whether a second is the last one of a month. -/
def endsMonth (seconds : Int) : Bool :=
  seconds % 86400 = 86399 && (Date.ofDayNumber (seconds / 86400 + 1)).day = 1

def ofLocal? (date : Date) (time : TimeOfDay) (offset : Int) : Option Instant :=
  if date.IsValid then
    let start := date.toDayNumber * 86400 + (time.hour * 3600 + time.minute * 60 : Nat) - offset
    if time.second = 60 then
      if endsMonth (start + 59) then make? (start + 59) 999999999 else none
    else make? (start + time.second) time.nanos
  else none

def ofString? (s : String) : Option Instant := do
  let (date, rest) ← readDate? s.toList
  let rest ← match rest with
    | c :: rest => if c.toNat < 0x80 then some rest else none
    | [] => none
  let (time, rest) ← readTime? rest
  let (offset, rest) ← readOffset? rest
  if rest = [] then ofLocal? date time offset else none

end EventCatalog.Instant.Strict
