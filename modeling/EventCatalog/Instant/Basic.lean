import EventCatalog.Instant.Calendar

/-!
# Instants

Points of time in UTC with nanosecond precision, leap seconds included.  A leap second is the second
half of a second that is two seconds long: its nanoseconds count from one billion on, so that
instants are ordered by seconds first and nanoseconds second.  Any second can have one; clocks and
texts only know those at the end of a minute.
-/

namespace EventCatalog

/-- A point of time: whole seconds since 1970-01-01T00:00:00Z and nanoseconds, those of a leap
second included. -/
@[ext]
structure Instant where
  seconds : Int
  nanos : Nat
  nanos_lt : nanos < 2000000000 := by omega
  lower : -8334601228800 ≤ seconds := by omega
  upper : seconds ≤ 8210266876799 := by omega
  deriving DecidableEq, Repr

namespace Instant

/-- The first second that can be written: -262143-01-01T00:00:00Z. -/
def firstSecond : Int := -8334601228800
/-- The last second that can be written: 262142-12-31T23:59:59Z. -/
def lastSecond : Int := 8210266876799

/-- 1970-01-01T00:00:00Z. -/
def epoch : Instant := ⟨0, 0, by omega, by omega, by omega⟩

instance : Inhabited Instant := ⟨epoch⟩

def first : Instant := ⟨firstSecond, 0, by omega, by decide, by decide⟩

/-- The last instant outside a leap second. -/
def last : Instant := ⟨lastSecond, 999999999, by omega, by decide, by decide⟩

/-- The instant of some seconds and nanoseconds, where there is one. -/
def make? (seconds : Int) (nanos : Nat) : Option Instant :=
  if h : nanos < 2000000000 ∧ -8334601228800 ≤ seconds ∧ seconds ≤ 8210266876799 then
    some ⟨seconds, nanos, h.1, h.2.1, h.2.2⟩
  else none

/-- Seconds first, nanoseconds second. -/
def lt (a b : Instant) : Prop :=
  a.seconds < b.seconds ∨ a.seconds = b.seconds ∧ a.nanos < b.nanos

instance : LT Instant := ⟨lt⟩
instance : LE Instant := ⟨fun a b ↦ ¬ b < a⟩

instance (a b : Instant) : Decidable (a < b) :=
  inferInstanceAs (Decidable (a.seconds < b.seconds ∨ a.seconds = b.seconds ∧ a.nanos < b.nanos))

instance (a b : Instant) : Decidable (a ≤ b) := inferInstanceAs (Decidable (¬ b < a))

/-- Milliseconds since 1970-01-01T00:00:00Z, rounded down.  A leap second reaches into the
milliseconds of the second after it. -/
def toMillis (t : Instant) : Int := t.seconds * 1000 + (t.nanos / 1000000 : Nat)

/-- The instant of a number of milliseconds; the first or the last instant when it lies beyond. -/
def ofMillis (ms : Int) : Instant :=
  match make? (ms / 1000) ((ms % 1000).toNat * 1000000) with
  | some t => t
  | none => if ms < 0 then first else last

@[simp]
theorem make?_self (t : Instant) : make? t.seconds t.nanos = some t := by
  simp [make?, t.nanos_lt, t.lower, t.upper]

theorem lt_iff (a b : Instant) :
    a < b ↔ a.seconds < b.seconds ∨ a.seconds = b.seconds ∧ a.nanos < b.nanos := Iff.rfl

theorem not_lt_self (a : Instant) : ¬ a < a := by
  rw [lt_iff]
  omega

end Instant

end EventCatalog
