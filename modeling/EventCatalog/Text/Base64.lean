/-!
# Base64

Bytes as text over the alphabet for URLs, `A-Z a-z 0-9 - _`: three bytes are four characters, and
the last group is filled up with `=`.  A text is read with its filling or without any, but never
with a part of it, and the bits of the last character that belong to no byte have to be zero.  So
every byte sequence has two written forms, of which one is printed.  A text over the alphabet with
`+` and `/` is read only with its filling.
-/

namespace EventCatalog.Text.Base64

/-- The character of a six-bit value. -/
def char (n : Nat) : Char :=
  if n < 26 then Char.ofNat ('A'.toNat + n)
  else if n < 52 then Char.ofNat ('a'.toNat + (n - 26))
  else if n < 62 then Char.ofNat ('0'.toNat + (n - 52))
  else if n = 62 then '-' else '_'

/-- The six-bit value of a character. -/
def value? (c : Char) : Option Nat :=
  if 'A' ≤ c ∧ c ≤ 'Z' then some (c.toNat - 'A'.toNat)
  else if 'a' ≤ c ∧ c ≤ 'z' then some (c.toNat - 'a'.toNat + 26)
  else if '0' ≤ c ∧ c ≤ '9' then some (c.toNat - '0'.toNat + 52)
  else if c = '-' then some 62
  else if c = '_' then some 63
  else none

/-- The filled form of a byte sequence. -/
def encode : List UInt8 → List Char
  | [] => []
  | [a] => [char (a.toNat / 4), char (a.toNat % 4 * 16), '=', '=']
  | [a, b] =>
    [char (a.toNat / 4), char (a.toNat % 4 * 16 + b.toNat / 16), char (b.toNat % 16 * 4), '=']
  | a :: b :: c :: rest =>
    char (a.toNat / 4) :: char (a.toNat % 4 * 16 + b.toNat / 16) ::
      char (b.toNat % 16 * 4 + c.toNat / 64) :: char (c.toNat % 64) :: encode rest

/-- The byte of a last group of two characters. -/
def lastOfTwo (p q : Nat) : Option (List UInt8) :=
  if q % 16 = 0 then some [UInt8.ofNat (p * 4 + q / 16)] else none

/-- The bytes of a last group of three characters. -/
def lastOfThree (p q r : Nat) : Option (List UInt8) :=
  if r % 4 = 0 then some [UInt8.ofNat (p * 4 + q / 16), UInt8.ofNat (q % 16 * 16 + r / 4)]
  else none

/-- The bytes of a group of four characters. -/
def fullGroup (p q r s : Nat) : List UInt8 :=
  [UInt8.ofNat (p * 4 + q / 16), UInt8.ofNat (q % 16 * 16 + r / 4), UInt8.ofNat (r % 4 * 64 + s)]

/-- Reads the form without filling. -/
def decodeBare? : List Char → Option (List UInt8)
  | [] => some []
  | [_] => none
  | [p, q] => do lastOfTwo (← value? p) (← value? q)
  | [p, q, r] => do lastOfThree (← value? p) (← value? q) (← value? r)
  | p :: q :: r :: s :: rest => do
    let group := fullGroup (← value? p) (← value? q) (← value? r) (← value? s)
    return group ++ (← decodeBare? rest)

/-- Reads the filled form: groups of four characters, the last of which may end in filling. -/
def decodeFilled? : List Char → Option (List UInt8)
  | [] => some []
  | [p, q, '=', '='] => do lastOfTwo (← value? p) (← value? q)
  | [p, q, r, '='] => do lastOfThree (← value? p) (← value? q) (← value? r)
  | p :: q :: r :: s :: rest => do
    let group := fullGroup (← value? p) (← value? q) (← value? r) (← value? s)
    return group ++ (← decodeFilled? rest)
  | _ => none

/-- Reads either form. -/
def decode? (cs : List Char) : Option (List UInt8) :=
  decodeFilled? cs <|> decodeBare? cs

/-- Reads the filled form over the alphabet that has `+` and `/` in the places of `-` and `_`. -/
def decodeStandard? (cs : List Char) : Option (List UInt8) :=
  if cs.any fun c ↦ c = '-' || c = '_' then none
  else decodeFilled? (cs.map fun c ↦ if c = '+' then '-' else if c = '/' then '_' else c)

end EventCatalog.Text.Base64
