import EventCatalog.Binary64.Decimal
import EventCatalog.Text.Digit

/-!
# JSON Numbers

A number as it is written, and its value.  An integer of at most 64 bits is exact.  Any other number
becomes a floating-point number in two roundings: as many leading digits as fit into 64 bits are
rounded first, and then scaled by a power of ten.
-/

namespace EventCatalog.Json

/-- A number as written: sign, digits before the point, digits after it, and the exponent. -/
structure NumberText where
  negative : Bool
  whole : List Nat
  fraction : Option (List Nat)
  exponent : Option Int
  deriving DecidableEq, Repr

inductive NumberValue where
  | natural (n : Nat)
  | negative (n : Int)
  | float (x : Binary64)
  deriving DecidableEq, Repr

def NumberValue.toBinary64 : NumberValue → Binary64
  | natural n => Binary64.ofNat n
  | negative n => Binary64.ofInt n
  | float x => x

/-- Digits read onto a number as long as it fits into 64 bits, and the digits left over. -/
def takeDigits : (value : Nat) → List Nat → Nat × List Nat
  | value, [] => (value, [])
  | value, d :: ds =>
    if value * 10 + d ≤ Text.max64 then takeDigits (value * 10 + d) ds else (value, d :: ds)

/-- The word nearest to a power of ten. -/
def powerOfTen (e : Nat) : Binary64 := Binary64.ofDecimal false 1 e

/-- Divides by a power of ten, 308 places at a time; what is left after two divisions is zero. -/
def scaleDown (x : Binary64) (e : Nat) : Binary64 :=
  if e ≤ 308 then x.div (powerOfTen e)
  else
    let y := x.div (powerOfTen 308)
    if e - 308 ≤ 308 then y.div (powerOfTen (e - 308)) else Binary64.zero

/-- `digits * 10 ^ exponent`, with the digits rounded before they are scaled.  There is no value
beyond the largest finite number. -/
def scaledValue? (digits : Nat) (exponent : Int) : Option Binary64 :=
  let x := Binary64.ofNat digits
  if exponent < 0 then some (scaleDown x exponent.natAbs)
  else if exponent ≤ 308 then
    let y := x.mul (powerOfTen exponent.natAbs)
    if y.isInfinite then none else some y
  else if digits = 0 then some Binary64.zero
  else none

/-- The value of a number that is no exact integer. -/
def NumberText.float? (n : NumberText) : Option Binary64 :=
  let (value, rest) := takeDigits 0 n.whole
  let fraction := n.fraction.getD []
  let (digits, dropped) := takeDigits value fraction
  let exponent := (rest.length : Int) - (fraction.length - dropped.length : Nat) + n.exponent.getD 0
  (scaledValue? digits exponent).map fun x ↦ if n.negative then x.neg else x

/-- The value of a number.  A negative zero is a floating-point number. -/
def NumberText.value? (n : NumberText) : Option NumberValue :=
  let (value, rest) := takeDigits 0 n.whole
  if n.fraction.isNone && n.exponent.isNone && rest.isEmpty then
    if n.negative then
      if value = 0 ∨ 0x8000000000000000 < value then some (.float (Binary64.ofNat value).neg)
      else some (.negative (-(value : Int)))
    else some (.natural value)
  else n.float?.map .float

end EventCatalog.Json
