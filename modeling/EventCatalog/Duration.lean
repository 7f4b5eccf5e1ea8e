import EventCatalog.Binary64.Basic
import EventCatalog.Text.Digit

/-!
# Durations

Lengths of time in whole nanoseconds.  A number of seconds becomes the nearest duration, ties to the
even one; it has to be neither negative nor beyond 64 bits of whole seconds.
-/

namespace EventCatalog

structure Duration where
  nanoseconds : Nat
  deriving DecidableEq, Repr, Inhabited

/-- Why a number of seconds is no duration. -/
inductive DurationFault where
  | negative
  /-- The number is beyond the longest duration, or no number at all. -/
  | unrepresentable
  deriving DecidableEq, Repr

def DurationFault.message : DurationFault → String
  | negative => "cannot convert float seconds to Duration: value is negative"
  | unrepresentable => "cannot convert float seconds to Duration: value is either too big or NaN"

namespace Duration

def perSecond : Nat := 1000000000

def perMillisecond : Nat := 1000000

def ofMillis (n : Nat) : Duration := ⟨n * perMillisecond⟩

/-- The duration in seconds: the whole seconds plus the rounded fraction. -/
def toSeconds (d : Duration) : Binary64 :=
  (Binary64.ofNat (d.nanoseconds / perSecond)).add
    ((Binary64.ofNat (d.nanoseconds % perSecond)).div (Binary64.ofNat perSecond))

/-- The duration nearest to a number of seconds. -/
def ofSeconds (x : Binary64) : Except DurationFault Duration :=
  if x.lt .zero then .error .negative
  else if !x.isFinite || !x.lt (.ofNat (Text.max64 + 1)) then .error .unrepresentable
  else
    let seconds := Binary64.scaled x.significand x.exponent
    .ok ⟨Binary64.roundDiv (seconds.1 * perSecond) seconds.2⟩

/-- The milliseconds that waiting takes: a timer counts whole ones, and never ends early. -/
def waitMillis (d : Duration) : Nat := (d.nanoseconds + perMillisecond - 1) / perMillisecond

end Duration

end EventCatalog
