/-!
# Digits

Digits of numbers written in a base up to sixteen, and the reader of unsigned decimal integers with
an upper bound.  Digits are ASCII only: the decimal digits of other scripts are not read.
-/

namespace EventCatalog.Text

/-- The value of an ASCII decimal digit. -/
def decimalDigit? (c : Char) : Option Nat :=
  if '0' ≤ c ∧ c ≤ '9' then some (c.toNat - '0'.toNat) else none

/-- The value of an ASCII hexadecimal digit of either case. -/
def hexDigit? (c : Char) : Option Nat :=
  if '0' ≤ c ∧ c ≤ '9' then some (c.toNat - '0'.toNat)
  else if 'a' ≤ c ∧ c ≤ 'f' then some (c.toNat - 'a'.toNat + 10)
  else if 'A' ≤ c ∧ c ≤ 'F' then some (c.toNat - 'A'.toNat + 10)
  else none

/-- The lowercase digit of a value below sixteen. -/
def digitChar (n : Nat) : Char :=
  if n < 10 then Char.ofNat ('0'.toNat + n) else Char.ofNat ('a'.toNat + (n - 10))

/-- The lowest `count` digits of `n` in a base, the most significant first. -/
def digits (base : Nat) : (count n : Nat) → List Char
  | 0, _ => []
  | count + 1, n => digits base count (n / base) ++ [digitChar (n % base)]

/-- `n` in decimal, with zeros in front up to `width` digits. -/
def padded (width n : Nat) : List Char :=
  digits 10 (max width (Nat.toDigits 10 n).length) n

@[simp]
theorem length_digits (base count n : Nat) : (digits base count n).length = count := by
  induction count generalizing n with
  | zero => rfl
  | succ count ih => simp [digits, ih]

/-- Two lowercase hexadecimal digits for each byte. -/
def hexOfBytes (bytes : List UInt8) : String :=
  String.ofList (bytes.flatMap fun b ↦ digits 16 2 b.toNat)

/-- Bytes written with two hexadecimal digits each. -/
def bytesOfHex? : List Char → Option (List UInt8)
  | [] => some []
  | [_] => none
  | high :: low :: rest => do
    let high ← hexDigit? high
    let low ← hexDigit? low
    let bytes ← bytesOfHex? rest
    return UInt8.ofNat (16 * high + low) :: bytes

/-- Why a text is no unsigned integer within bounds. -/
inductive IntegerFault where
  | empty
  /-- A character is no decimal digit, or a sign stands alone. -/
  | invalidDigit
  /-- The digits read so far exceed the bound. -/
  | tooLarge
  deriving DecidableEq, Repr

/-- Reads decimal digits onto `value`.  The bound is looked at after each digit, so an excess wins
over an invalid character further on. -/
def readDigits (bound : Nat) : (value : Nat) → List Char → Except IntegerFault Nat
  | value, [] => .ok value
  | value, c :: cs =>
    match decimalDigit? c with
    | none => .error .invalidDigit
    | some digit =>
      if value * 10 + digit ≤ bound then readDigits bound (value * 10 + digit) cs
      else .error .tooLarge

/-- Reads an unsigned integer of at most `bound`: decimal digits, after at most one plus sign. -/
def readUnsigned (bound : Nat) (s : String) : Except IntegerFault Nat :=
  match s.toList with
  | [] => .error .empty
  | ['+'] => .error .invalidDigit
  | '+' :: cs => readDigits bound 0 cs
  | cs => readDigits bound 0 cs

/-- Reads a signed integer between `-bound - 1` and `bound`: decimal digits, after at most one
sign. -/
def readSigned? (bound : Nat) (s : String) : Option Int :=
  match s.toList with
  | '-' :: d :: ds => ((readDigits (bound + 1) 0 (d :: ds)).toOption).map fun n ↦ -(n : Int)
  | _ => ((readUnsigned bound s).toOption).map fun n ↦ (n : Int)

def max16 : Nat := 0xFFFF
def max32 : Nat := 0xFFFFFFFF
def max64 : Nat := 0xFFFFFFFFFFFFFFFF

end EventCatalog.Text
