import EventCatalog.Json.Number
import EventCatalog.Text.Utf8

/-!
# Reading JSON

The bytes of a text as a tree that keeps strings and numbers as they are written.  A reading never
fails: at the first fault it stops and leaves a mark, which is the last part of every array and
object around it.  So whoever decodes the tree from front to back meets the faults of form and the
faults of content in the order in which they stand in the text.
-/

namespace EventCatalog.Json

/-- A piece of a quoted text: a byte, or a sixteen-bit unit written as a `\u` escape. -/
inductive QuotedPart where
  | byte (b : UInt8)
  | unit (n : Nat)
  deriving DecidableEq, Repr

inductive Reading where
  | null
  | bool (b : Bool)
  | number (n : NumberText)
  | string (parts : List QuotedPart)
  | array (items : List Reading)
  | object (members : List (Reading × Reading))
  /-- The place where the text is no JSON. -/
  | fault
  deriving Inhabited

/-- A reading, and the bytes after it unless it stopped at a fault. -/
abbrev Step (α : Type) := α × Option (List UInt8)

def skipBlanks (bytes : List UInt8) : List UInt8 :=
  bytes.dropWhile fun b ↦ b = 0x20 || b = 0x0A || b = 0x0D || b = 0x09

/-- The byte that a one-letter escape stands for. -/
def escapedByte? (c : Char) : Option UInt8 :=
  match c with
  | '"' => some 0x22
  | '\\' => some 0x5C
  | '/' => some 0x2F
  | 'b' => some 0x08
  | 'f' => some 0x0C
  | 'n' => some 0x0A
  | 'r' => some 0x0D
  | 't' => some 0x09
  | _ => none

/-- The inside of a quoted text, up to and over the closing quote. -/
def readQuoted : List UInt8 → Step (List QuotedPart)
  | [] => ([], none)
  | b :: rest =>
    if b = 0x22 then ([], some rest)
    else if b = 0x5C then
      match rest with
      | [] => ([], none)
      | c :: rest =>
        match escapedByte? (Char.ofUInt8 c) with
        | some d => let (parts, rest) := readQuoted rest; (.byte d :: parts, rest)
        | none =>
          if c = 0x75 then
            match rest with
            | p :: q :: r :: s :: rest =>
              match Text.hexDigit? (Char.ofUInt8 p), Text.hexDigit? (Char.ofUInt8 q),
                Text.hexDigit? (Char.ofUInt8 r), Text.hexDigit? (Char.ofUInt8 s) with
              | some p, some q, some r, some s =>
                let (parts, rest) := readQuoted rest
                (.unit (p * 4096 + q * 256 + r * 16 + s) :: parts, rest)
              | _, _, _, _ => ([], none)
            | _ => ([], none)
          else ([], none)
    else if b.toNat < 32 then ([], none)
    else let (parts, rest) := readQuoted rest; (.byte b :: parts, rest)

def spanDigits (bytes : List UInt8) : List Nat × List UInt8 :=
  let isDigit (b : UInt8) : Bool := 0x30 ≤ b.toNat && b.toNat ≤ 0x39
  ((bytes.takeWhile isDigit).map (·.toNat - 0x30), bytes.dropWhile isDigit)

/-- The fraction of a number: a point and at least one digit, or nothing. -/
def readFraction (bytes : List UInt8) : Option (Option (List Nat) × List UInt8) :=
  match bytes with
  | 0x2E :: rest =>
    match spanDigits rest with
    | ([], _) => none
    | (ds, rest) => some (some ds, rest)
  | _ => some (none, bytes)

/-- The exponent of a number: a letter, an optional sign and at least one digit, or nothing. -/
def readExponent (bytes : List UInt8) : Option (Option Int × List UInt8) :=
  match bytes with
  | b :: rest =>
    if b = 0x65 ∨ b = 0x45 then
      let (negative, rest) := match rest with
        | 0x2B :: rest => (false, rest)
        | 0x2D :: rest => (true, rest)
        | rest => (false, rest)
      match spanDigits rest with
      | ([], _) => none
      | (ds, rest) =>
        let n : Int := Binary64.natOfDigits ds
        some (some (if negative then -n else n), rest)
    else some (none, bytes)
  | [] => some (none, [])

/-- A number without its sign.  A leading zero stands alone before the point. -/
def readNumber (negative : Bool) (bytes : List UInt8) : Step Reading :=
  let found := do
    let (whole, rest) := spanDigits bytes
    if whole.isEmpty || (whole.head? = some 0 && 1 < whole.length) then none
    else
      let (fraction, rest) ← readFraction rest
      let (exponent, rest) ← readExponent rest
      return (NumberText.mk negative whole fraction exponent, rest)
  match found with
  | some (n, rest) => (.number n, some rest)
  | none => (.fault, none)

/-- A word such as `null`. -/
def readWord (word : String) (value : Reading) (bytes : List UInt8) : Step Reading :=
  let letters := Text.toBytes word
  if bytes.take letters.length = letters then (value, some (bytes.drop letters.length))
  else (.fault, none)

mutual

/-- A value after blanks.  The fuel bounds the nesting and the number of parts. -/
def readValue : (fuel : Nat) → List UInt8 → Step Reading
  | 0, _ => (.fault, none)
  | fuel + 1, bytes =>
    match skipBlanks bytes with
    | [] => (.fault, none)
    | b :: rest =>
      if b = 0x22 then
        match readQuoted rest with
        | (parts, some rest) => (.string parts, some rest)
        | (_, none) => (.fault, none)
      else if b = 0x5B then
        let (items, rest) := readItems fuel true rest
        (.array items, rest)
      else if b = 0x7B then
        let (members, rest) := readMembers fuel true rest
        (.object members, rest)
      else if b = 0x2D then readNumber true rest
      else if 0x30 ≤ b.toNat ∧ b.toNat ≤ 0x39 then readNumber false (b :: rest)
      else if b = 0x6E then readWord "null" .null (b :: rest)
      else if b = 0x74 then readWord "true" (.bool true) (b :: rest)
      else if b = 0x66 then readWord "false" (.bool false) (b :: rest)
      else (.fault, none)

/-- The items of an array after the opening bracket or after an item. -/
def readItems : (fuel : Nat) → (first : Bool) → List UInt8 → Step (List Reading)
  | 0, _, _ => ([.fault], none)
  | fuel + 1, first, bytes =>
    let item (bytes : List UInt8) : Step (List Reading) :=
      match readValue fuel bytes with
      | (value, some rest) =>
        let (items, rest) := readItems fuel false rest
        (value :: items, rest)
      | (value, none) => ([value, .fault], none)
    match skipBlanks bytes with
    | [] => ([.fault], none)
    | b :: rest =>
      if b = 0x5D then ([], some rest)
      else if first then item (b :: rest)
      else if b = 0x2C then
        if (skipBlanks rest).head? = some 0x5D then ([.fault], none) else item rest
      else ([.fault], none)

/-- The members of an object after the opening brace or after a member.  A name that is no quoted
text is a fault. -/
def readMembers : (fuel : Nat) → (first : Bool) → List UInt8 → Step (List (Reading × Reading))
  | 0, _, _ => ([(.fault, .fault)], none)
  | fuel + 1, first, bytes =>
    let member (name : List QuotedPart) (bytes : List UInt8) : Step (List (Reading × Reading)) :=
      match skipBlanks bytes with
      | 0x3A :: rest =>
        match readValue fuel rest with
        | (value, some rest) =>
          let (members, rest) := readMembers fuel false rest
          ((.string name, value) :: members, rest)
        | (value, none) => ([(.string name, value), (.fault, .fault)], none)
      | _ => ([(.string name, .fault), (.fault, .fault)], none)
    let named (bytes : List UInt8) : Step (List (Reading × Reading)) :=
      match skipBlanks bytes with
      | 0x22 :: rest =>
        match readQuoted rest with
        | (name, some rest) => member name rest
        | (_, none) => ([(.fault, .fault)], none)
      | _ => ([(.fault, .fault)], none)
    match skipBlanks bytes with
    | [] => ([(.fault, .fault)], none)
    | b :: rest =>
      if b = 0x7D then ([], some rest)
      else if first then named (b :: rest)
      else if b = 0x2C then named rest
      else ([(.fault, .fault)], none)

end

/-- A whole text: its value, and whether only blanks follow it. -/
structure Source where
  root : Reading
  endsWithRoot : Bool

def readBytes (bytes : List UInt8) : Source :=
  match readValue (2 * bytes.length + 2) bytes with
  | (root, some rest) => ⟨root, (skipBlanks rest).isEmpty⟩
  | (root, none) => ⟨root, false⟩

/-- The bytes that the pieces of a quoted text stand for.  A unit of the first surrogate half is
read together with the second half, which has to follow; neither half may stand alone. -/
def quotedBytes? : List QuotedPart → Option (List UInt8)
  | [] => some []
  | .byte b :: rest => (quotedBytes? rest).map (b :: ·)
  | .unit n :: rest =>
    if 0xD800 ≤ n ∧ n < 0xDC00 then
      match rest with
      | .unit m :: rest =>
        if 0xDC00 ≤ m ∧ m < 0xE000 then
          (quotedBytes? rest).map
            (String.utf8EncodeChar (Char.ofNat (0x10000 + (n - 0xD800) * 1024 + (m - 0xDC00))) ++ ·)
        else none
      | _ => none
    else if 0xDC00 ≤ n ∧ n < 0xE000 then none
    else (quotedBytes? rest).map (String.utf8EncodeChar (Char.ofNat n) ++ ·)

def quotedText? (parts : List QuotedPart) : Option String :=
  (quotedBytes? parts).bind Text.ofBytes?

end EventCatalog.Json
