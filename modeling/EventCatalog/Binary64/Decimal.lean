import EventCatalog.Binary64.Basic
import EventCatalog.Text.Digit

/-!
# Decimal Forms of Binary Numbers

Reading and printing.  A decimal is read as the nearest word.  A finite word is printed with the
fewest digits that read back, and of those the digits nearest to its value.

The search tries one digit, two digits and so on up to seventeen: on each decimal grid the two
neighbours of the value are compared, in exact arithmetic, with the interval of numbers that round
to the word.
-/

namespace EventCatalog.Binary64

/-- The word nearest to `digits * 10 ^ exponent`.  Values far beyond the format are decided by the
number of digits alone, so that no power of ten grows with the written exponent. -/
def ofDecimal (negative : Bool) (digits : Nat) (exponent : Int) : Binary64 :=
  if digits = 0 then ofMagnitude negative 0
  else
    let top : Int := exponent + (Nat.toDigits 10 digits).length
    if 310 < top then infinity negative
    else if top < -330 then ofMagnitude negative 0
    else ofQuotient negative (digits * Nat.pow 10 exponent.toNat) (Nat.pow 10 (-exponent).toNat)

/-- A positive decimal number `digits * 10 ^ exponent`. -/
structure Decimal where
  digits : Nat
  exponent : Int
  deriving DecidableEq, Repr

/-- Moves zeros at the end of the digits to the exponent.  The fuel bounds their number. -/
def Decimal.normalize : (fuel : Nat) → Decimal → Decimal
  | 0, d => d
  | fuel + 1, d =>
    if d.digits ≠ 0 ∧ d.digits % 10 = 0 then normalize fuel ⟨d.digits / 10, d.exponent + 1⟩ else d

/-- The exponent of the first decimal digit of a positive quotient. -/
def decimalExponent (num den : Nat) : Int :=
  if den ≤ num then ((Nat.toDigits 10 (num / den)).length : Int) - 1
  else
    let places := (Nat.toDigits 10 (den / num)).length
    if den ≤ num * Nat.pow 10 (places - 1) then -((places : Int) - 1) else -(places : Int)

/-- The interval of numbers that round to a word, as two numbers of units, and whether it holds its
ends.  Below a power of two the words lie twice as close. -/
structure RoundingInterval where
  low : Nat
  high : Nat
  closed : Bool

/-- The rounding interval of a positive finite word, in units of a quarter of its last place. -/
def roundingInterval (x : Binary64) : RoundingInterval where
  low := if x.significand = fractionCount ∧ -1074 < x.exponent then 4 * x.significand - 1
    else 4 * x.significand - 2
  high := 4 * x.significand + 2
  closed := x.significand % 2 = 0

/-- The shortest decimal of a finite word other than zero, leaving out its sign. -/
def shortest (x : Binary64) : Decimal :=
  let interval := x.roundingInterval
  let unit := scaled 1 (x.exponent - 2)
  let value := 4 * x.significand
  let top := decimalExponent (value * unit.1) unit.2
  -- On the grid `10 ^ e`, a point `c` and `u` units compare as `c * left` and `u * right`.
  let rec search : (fuel digitCount : Nat) → Decimal
    | 0, _ => ⟨x.significand, 0⟩
    | fuel + 1, digitCount =>
      let e := top - digitCount + 1
      let left := unit.2 * Nat.pow 10 e.toNat
      let right := unit.1 * Nat.pow 10 (-e).toNat
      let inside (c : Nat) : Bool :=
        if interval.closed then interval.low * right ≤ c * left && c * left ≤ interval.high * right
        else interval.low * right < c * left && c * left < interval.high * right
      let below := value * right / left
      let above := below + 1
      let gap := (value * right - below * left, above * left - value * right)
      let nearer :=
        if gap.1 < gap.2 then below else if gap.2 < gap.1 then above
        else if below % 2 = 0 then below else above
      if inside below && inside above then ⟨nearer, e⟩
      else if inside below then ⟨below, e⟩
      else if inside above then ⟨above, e⟩
      else search fuel (digitCount + 1)
  (search 17 1).normalize 20

/-- Where a printer changes from positional to exponent notation, and what it writes for an integral
value: the exponents of the first digit that are printed positionally, and whether an integral value
ends in `.0`. -/
structure Layout where
  positional : Int → Bool
  pointZero : Bool

/-- The digits of a number with the point after the digit of exponent zero. -/
def positionalText (layout : Layout) (ds : List Char) (exponent : Int) : List Char :=
  let point := (ds.length : Int) + exponent
  if 0 ≤ exponent then
    ds ++ List.replicate exponent.toNat '0' ++ if layout.pointZero then ['.', '0'] else []
  else if 0 < point then ds.take point.toNat ++ '.' :: ds.drop point.toNat
  else '0' :: '.' :: List.replicate (-point).toNat '0' ++ ds

/-- The digits of a number with the point after the first digit, and the exponent of that digit. -/
def exponentText (ds : List Char) (exponent : Int) : List Char :=
  let e := (ds.length : Int) + exponent - 1
  let mantissa := match ds with
    | d :: [] => [d]
    | d :: rest => d :: '.' :: rest
    | [] => []
  mantissa ++ 'e' :: (toString e).toList

def finiteText (layout : Layout) (x : Binary64) : List Char :=
  let sign := if x.isNegative then ['-'] else []
  if x.isZero then sign ++ '0' :: if layout.pointZero then ['.', '0'] else []
  else
    let decimal := x.shortest
    let ds := Nat.toDigits 10 decimal.digits
    let e := (ds.length : Int) + decimal.exponent - 1
    sign ++ if layout.positional e then positionalText layout ds decimal.exponent
      else exponentText ds decimal.exponent

/-- Plain text: always positional, integral values without a point. -/
def plainLayout : Layout := ⟨fun _ ↦ true, false⟩

/-- Plain text of any word; infinities are `inf`, and every NaN is `NaN`. -/
def toPlainText (x : Binary64) : String :=
  if x.isNaN then "NaN"
  else if x.isInfinite then if x.isNegative then "-inf" else "inf"
  else String.ofList (finiteText plainLayout x)

inductive ReadFault where
  | empty
  | invalid
  deriving DecidableEq, Repr

/-- The decimal digits in front of a text, and the rest. -/
def spanDigits (cs : List Char) : List Nat × List Char :=
  ((cs.takeWhile Char.isDigit).filterMap Text.decimalDigit?, cs.dropWhile Char.isDigit)

def natOfDigits (ds : List Nat) : Nat := ds.foldl (fun n d ↦ 10 * n + d) 0

/-- Whether the sign in front of a text is a minus, and what stands behind the sign. -/
def readSign : List Char → Bool × List Char
  | '-' :: cs => (true, cs)
  | '+' :: cs => (false, cs)
  | cs => (false, cs)

/-- The digits behind a point, if there is one, and the rest. -/
def readFraction : List Char → List Nat × List Char
  | '.' :: cs => spanDigits cs
  | cs => ([], cs)

/-- The exponent part of a number: nothing, or `e`, an optional sign and digits. -/
def readExponent? : List Char → Option Int
  | [] => some 0
  | c :: cs =>
    if c = 'e' ∨ c = 'E' then
      match spanDigits (readSign cs).2 with
      | (d :: ds, []) =>
        let n : Int := natOfDigits (d :: ds)
        some (if (readSign cs).1 then -n else n)
      | _ => none
    else none

/-- An unsigned number: digits with at most one point, at least one digit, and an exponent part. -/
def readUnsigned? (negative : Bool) (cs : List Char) : Option Binary64 := do
  let (whole, rest) := spanDigits cs
  let (fraction, rest) := readFraction rest
  if whole.isEmpty && fraction.isEmpty then none
  else
    let exponent ← readExponent? rest
    return ofDecimal negative (natOfDigits (whole ++ fraction)) (exponent - fraction.length)

/-- A number without its sign: `inf`, `infinity` and `nan` in either case, or digits. -/
def readMagnitude? (negative : Bool) (cs : List Char) : Option Binary64 :=
  let lower := cs.map Char.toLower
  if lower = "inf".toList ∨ lower = "infinity".toList then some (infinity negative)
  else if lower = "nan".toList then some (if negative then nan.neg else nan)
  else readUnsigned? negative cs

/-- Reads a number: an optional sign, then a name or digits; the value is rounded once. -/
def read (s : String) : Except ReadFault Binary64 :=
  match readMagnitude? (readSign s.toList).1 (readSign s.toList).2 with
  | some x => .ok x
  | none => .error (if s.isEmpty then .empty else .invalid)

end EventCatalog.Binary64
