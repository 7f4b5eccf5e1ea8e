import EventCatalog.Instant.Basic
import EventCatalog.Text.Blank
import EventCatalog.Text.Digit

/-!
# Reading Instants

A lenient form of RFC 3339: a date, one of `T`, `t` and a space, a time of day and an offset from
UTC.  Numbers may have fewer digits than the standard asks for, blanks may stand in front of every
number, divider and offset and at the end, and a signed year may have any number of digits.  The
offset is `Z`, `UTC` or a sign with hours and minutes; the sign may be U+2212.

Each reader takes its part from the front of the characters and returns what follows it.
-/

namespace EventCatalog.Instant

open Text (trimStart)

/-- Reads the leading decimal digits, `limit` of them at most, onto `value`. -/
def spanNumber : (limit value : Nat) → List Char → Nat × List Char
  | 0, value, cs => (value, cs)
  | _, value, [] => (value, [])
  | limit + 1, value, c :: cs =>
    match Text.decimalDigit? c with
    | some digit => spanNumber limit (10 * value + digit) cs
    | none => (value, c :: cs)

/-- A number of one to `limit` digits. -/
def readNumber? (limit : Nat) (cs : List Char) : Option (Nat × List Char) :=
  let found := spanNumber limit 0 cs
  if found.2.length < cs.length then some found else none

/-- A number of one to `limit` digits within bounds, after blanks. -/
def readField? (limit low high : Nat) (cs : List Char) : Option (Nat × List Char) := do
  let (n, rest) ← readNumber? limit (trimStart cs)
  if low ≤ n ∧ n ≤ high then some (n, rest) else none

/-- A year after blanks: four digits at most, or any number of digits after a sign. -/
def readYear? (cs : List Char) : Option (Int × List Char) :=
  match trimStart cs with
  | '-' :: rest => (readNumber? rest.length rest).map fun (n, rest) ↦ (-(n : Int), rest)
  | '+' :: rest => (readNumber? rest.length rest).map fun (n, rest) ↦ ((n : Int), rest)
  | cs => (readNumber? 4 cs).map fun (n, rest) ↦ ((n : Int), rest)

/-- A divider after blanks. -/
def readDivider? (divider : Char) (cs : List Char) : Option (List Char) :=
  match trimStart cs with
  | c :: rest => if c = divider then some rest else none
  | [] => none

def readDate? (cs : List Char) : Option (Date × List Char) := do
  let (year, rest) ← readYear? cs
  let rest ← readDivider? '-' rest
  let (month, rest) ← readField? 2 1 12 rest
  let rest ← readDivider? '-' rest
  let (day, rest) ← readField? 2 1 31 rest
  return (⟨year, month, day⟩, rest)

/-- A fraction of a second as nanoseconds: a point and digits, of which the first nine count. -/
def readFraction? (cs : List Char) : Option (Nat × List Char) :=
  match cs with
  | '.' :: cs => do
    let (n, rest) ← readNumber? 9 cs
    return (n * Nat.pow 10 (9 - (cs.length - rest.length)), rest.dropWhile Char.isDigit)
  | cs => some (0, cs)

structure TimeOfDay where
  hour : Nat
  minute : Nat
  second : Nat
  nanos : Nat
  deriving DecidableEq, Repr

/-- Hour, minute and second with a fraction; the second may be 60. -/
def readTime? (cs : List Char) : Option (TimeOfDay × List Char) := do
  let (hour, rest) ← readField? 2 0 23 cs
  let rest ← readDivider? ':' rest
  let (minute, rest) ← readField? 2 0 59 rest
  let rest ← readDivider? ':' rest
  let (second, rest) ← readField? 2 0 60 rest
  let (nanos, rest) ← readFraction? rest
  return (⟨hour, minute, second, nanos⟩, rest)

/-- Exactly two digits within a bound. -/
def readPair? (high : Nat) (cs : List Char) : Option (Nat × List Char) :=
  match cs with
  | c :: d :: rest => do
    let n := 10 * (← Text.decimalDigit? c) + (← Text.decimalDigit? d)
    if n ≤ high then some (n, rest) else none
  | _ => none

/-- Hours and minutes of an offset, with any colons and blanks between them, as seconds. -/
def readOffsetSeconds? (cs : List Char) : Option (Int × List Char) := do
  let (hours, rest) ← readPair? 23 cs
  let (minutes, rest) ← readPair? 59 (rest.dropWhile fun c ↦ c = ':' || Text.isBlank c)
  return (hours * 3600 + minutes * 60, rest)

/-- An offset from UTC in seconds, after blanks. -/
def readOffset? (cs : List Char) : Option (Int × List Char) :=
  let cs := trimStart cs
  if (cs.take 3).map Char.toUpper = ['U', 'T', 'C'] then some (0, cs.drop 3)
  else
    match cs with
    | 'Z' :: rest => some (0, rest)
    | 'z' :: rest => some (0, rest)
    | '+' :: rest => readOffsetSeconds? rest
    | '-' :: rest => (readOffsetSeconds? rest).map fun (n, rest) ↦ (-n, rest)
    | '\u2212' :: rest => (readOffsetSeconds? rest).map fun (n, rest) ↦ (-n, rest)
    | _ => none

/-- The instant of a local date and time at an offset.  Both the local and the UTC time have to lie
within the range of instants. -/
def ofLocal? (date : Date) (time : TimeOfDay) (offset : Int) : Option Instant :=
  if date.IsValid then
    let leap := time.second = 60
    let second := if leap then 59 else time.second
    let nanos := if leap then 1000000000 + time.nanos else time.nanos
    let seconds := date.toDayNumber * 86400 + (time.hour * 3600 + time.minute * 60 + second : Nat)
    (make? seconds nanos).bind fun _ ↦ make? (seconds - offset) nanos
  else none

def ofChars? (cs : List Char) : Option Instant := do
  let (date, rest) ← readDate? cs
  let rest ← match rest with
    | c :: rest => if c = 'T' ∨ c = 't' ∨ c = ' ' then some rest else none
    | [] => none
  let (time, rest) ← readTime? rest
  let (offset, rest) ← readOffset? rest
  if trimStart rest = [] then ofLocal? date time offset else none

def ofString? (s : String) : Option Instant := ofChars? s.toList

end EventCatalog.Instant
