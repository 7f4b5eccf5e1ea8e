/-!
# Binary Floating-Point Numbers

The 64-bit binary format as words, with its order, its classes and its arithmetic.  A finite word
stands for `significand * 2 ^ exponent`; every operation computes the exact quotient of two natural
numbers and rounds it once, to the nearest word, ties to the even one.  Nothing here depends on the
floating-point unit of a machine.
-/

namespace EventCatalog

/-- A word of the 64-bit binary format: a sign bit, eleven bits of exponent, 52 bits of fraction. -/
structure Binary64 where
  bits : BitVec 64
  deriving DecidableEq, Repr, Inhabited

namespace Binary64

/-- The weight of the sign bit, `2 ^ 63`. -/
def signWeight : Nat := 0x8000000000000000

/-- The number of words of one sign and one exponent, `2 ^ 52`. -/
def fractionCount : Nat := 0x10000000000000

/-- The bits below the sign, as a number.  They order the words of one sign. -/
def magnitude (x : Binary64) : Nat := x.bits.toNat % signWeight

def isNegative (x : Binary64) : Bool := signWeight ≤ x.bits.toNat

/-- The magnitude of infinity: exponent all ones, fraction zero. -/
def infiniteMagnitude : Nat := 2047 * fractionCount

def ofMagnitude (negative : Bool) (magnitude : Nat) : Binary64 :=
  ⟨BitVec.ofNat 64 ((if negative then signWeight else 0) + magnitude)⟩

def zero : Binary64 := ofMagnitude false 0
/-- The canonical quiet NaN. -/
def nan : Binary64 := ofMagnitude false (infiniteMagnitude + fractionCount / 2)
def infinity (negative : Bool) : Binary64 := ofMagnitude negative infiniteMagnitude

def isNaN (x : Binary64) : Bool := infiniteMagnitude < x.magnitude
def isInfinite (x : Binary64) : Bool := x.magnitude = infiniteMagnitude
def isFinite (x : Binary64) : Bool := x.magnitude < infiniteMagnitude
/-- Whether the word is a zero of either sign. -/
def isZero (x : Binary64) : Bool := x.magnitude = 0

/-- The place of a number in the order; both zeros have place zero. -/
def rank (x : Binary64) : Int := if x.isNegative then -(x.magnitude : Int) else x.magnitude

/-- The strict order of numbers.  It holds for no pair with a NaN. -/
def lt (x y : Binary64) : Bool := !x.isNaN && !y.isNaN && x.rank < y.rank

/-- Equality of numbers: both zeros are equal, a NaN equals nothing. -/
def eq (x y : Binary64) : Bool := !x.isNaN && !y.isNaN && x.rank = y.rank

/-- The lesser of two numbers; a NaN gives way to the other one. -/
def lesser (x y : Binary64) : Binary64 := if x.isNaN || y.lt x then y else x

/-- The factor of a finite word that is no power of two. -/
def significand (x : Binary64) : Nat :=
  if x.magnitude < fractionCount then x.magnitude
  else fractionCount + x.magnitude % fractionCount

/-- The power of two of a finite word. -/
def exponent (x : Binary64) : Int := (max (x.magnitude / fractionCount) 1 : Nat) - 1075

/-- A quotient rounded to the nearest integer, a tie to the even one. -/
def roundDiv (num den : Nat) : Nat :=
  let quotient := num / den
  let twice := 2 * (num % den)
  if twice < den then quotient
  else if den < twice then quotient + 1
  else quotient + quotient % 2

/-- `n * 2 ^ e` as a quotient of natural numbers. -/
def scaled (n : Nat) (e : Int) : Nat × Nat := (n * Nat.pow 2 e.toNat, Nat.pow 2 (-e).toNat)

/-- The word nearest to `num / den`, ties to even; beyond the largest finite word, infinity.

The exponent starts at the lower of the two that the bit lengths admit, and goes one up when the
quotient still has more than 53 bits.  Adding the rounded significand to the shifted exponent lets a
carry out of the significand move to the exponent by itself. -/
def ofQuotient (negative : Bool) (num den : Nat) : Binary64 :=
  if num = 0 then ofMagnitude negative 0
  else
    let start : Int := max ((num.log2 : Int) - den.log2 - 53) (-1074)
    let quotient (e : Int) : Nat × Nat := (num * Nat.pow 2 (-e).toNat, den * Nat.pow 2 e.toNat)
    let wide := 2 * fractionCount ≤ (quotient start).1 / (quotient start).2
    let e := if wide then start + 1 else start
    let rounded := roundDiv (quotient e).1 (quotient e).2
    ofMagnitude negative (min ((e + 1074).toNat * fractionCount + rounded) infiniteMagnitude)

def ofInt (n : Int) : Binary64 := ofQuotient (n < 0) n.natAbs 1

def ofNat (n : Nat) : Binary64 := ofQuotient false n 1

def neg (x : Binary64) : Binary64 := ofMagnitude (!x.isNegative) x.magnitude

def mul (x y : Binary64) : Binary64 :=
  let negative := x.isNegative != y.isNegative
  if x.isNaN || y.isNaN then nan
  else if x.isInfinite || y.isInfinite then
    if x.isZero || y.isZero then nan else infinity negative
  else
    let product := scaled (x.significand * y.significand) (x.exponent + y.exponent)
    ofQuotient negative product.1 product.2

def div (x y : Binary64) : Binary64 :=
  let negative := x.isNegative != y.isNegative
  if x.isNaN || y.isNaN then nan
  else if x.isInfinite then if y.isInfinite then nan else infinity negative
  else if y.isInfinite then ofMagnitude negative 0
  else if y.isZero then if x.isZero then nan else infinity negative
  else
    let quotient := scaled x.significand (x.exponent - y.exponent)
    ofQuotient negative quotient.1 (quotient.2 * y.significand)

/-- A finite word as an integer number of units `2 ^ -1074`. -/
def units (x : Binary64) : Int :=
  let n := x.significand * Nat.pow 2 (x.exponent + 1074).toNat
  if x.isNegative then -(n : Int) else n

def add (x y : Binary64) : Binary64 :=
  if x.isNaN || y.isNaN then nan
  else if x.isInfinite then
    if y.isInfinite && x.isNegative != y.isNegative then nan else x
  else if y.isInfinite then y
  else
    let sum := x.units + y.units
    let negative := if sum = 0 then x.isNegative && y.isNegative else sum < 0
    ofQuotient negative sum.natAbs (Nat.pow 2 1074)

/-- `x` multiplied with itself `n` times by repeated squaring, rounding at each product.  The fuel
bounds the number of bits of `n`. -/
def powAux : (fuel n : Nat) → (x result : Binary64) → Binary64
  | 0, _, _, result => result
  | fuel + 1, n, x, result =>
    let result := if n % 2 = 1 then result.mul x else result
    if n / 2 = 0 then result else powAux fuel (n / 2) (x.mul x) result

def pow (x : Binary64) (n : Nat) : Binary64 := powAux (n.log2 + 1) n x (ofNat 1)

/-- The sixteen hexadecimal digits of the word; every NaN has the digits of the canonical one. -/
def canonicalBits (x : Binary64) : Nat := if x.isNaN then nan.bits.toNat else x.bits.toNat

end Binary64

end EventCatalog
