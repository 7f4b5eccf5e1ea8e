import EventCatalog.Binary64.Decimal
import EventCatalog.Text.Digit

/-!
# JSON Values

The values that the service answers with, their printed form, and the part of a value at a pointer.
Members keep the order in which they are written.  A number that is integral by nature is printed
without a point, a floating-point number always with a point or an exponent; what is no finite
number is printed as `null`.
-/

namespace EventCatalog

inductive Json where
  | null
  | bool (b : Bool)
  | int (n : Int)
  | float (x : Binary64)
  | string (s : String)
  | array (items : List Json)
  | object (members : List (String × Json))
  deriving Inhabited

namespace Json

instance : Coe String Json := ⟨.string⟩
instance : Coe Bool Json := ⟨.bool⟩
instance : Coe Nat Json := ⟨fun n ↦ .int n⟩

/-- Positional notation from `0.00001` up to sixteen digits; an integral value ends in `.0`. -/
def numberLayout : Binary64.Layout := ⟨fun e ↦ -5 ≤ e && e ≤ 15, true⟩

/-- A character inside quotes: quote, backslash and control characters are escaped. -/
def escape (c : Char) : List Char :=
  if c = '"' then ['\\', '"']
  else if c = '\\' then ['\\', '\\']
  else if c = '\n' then ['\\', 'n']
  else if c = '\r' then ['\\', 'r']
  else if c = '\t' then ['\\', 't']
  else if c.toNat = 8 then ['\\', 'b']
  else if c.toNat = 12 then ['\\', 'f']
  else if c.toNat < 32 then ['\\', 'u'] ++ Text.digits 16 4 c.toNat
  else [c]

/-- A text in quotes. -/
def quote (s : String) : List Char :=
  '"' :: s.toList.flatMap escape ++ ['"']

def floatChars (x : Binary64) : List Char :=
  if x.isFinite then Binary64.finiteText numberLayout x else ['n', 'u', 'l', 'l']

mutual

/-- The printed form without blanks. -/
def toChars : Json → List Char
  | null => ['n', 'u', 'l', 'l']
  | bool true => ['t', 'r', 'u', 'e']
  | bool false => ['f', 'a', 'l', 's', 'e']
  | int n => (toString n).toList
  | float x => floatChars x
  | string s => quote s
  | array [] => ['[', ']']
  | array (item :: items) => '[' :: toChars item ++ itemsChars items
  | object [] => ['{', '}']
  | object ((name, value) :: members) =>
    '{' :: quote name ++ ':' :: toChars value ++ membersChars members

/-- The items after the first, and the closing bracket. -/
def itemsChars : List Json → List Char
  | [] => [']']
  | item :: items => ',' :: toChars item ++ itemsChars items

/-- The members after the first, and the closing brace. -/
def membersChars : List (String × Json) → List Char
  | [] => ['}']
  | (name, value) :: members => ',' :: quote name ++ ':' :: toChars value ++ membersChars members

end

def print (j : Json) : String := String.ofList j.toChars

def get? (j : Json) (name : String) : Option Json :=
  match j with
  | object members => (members.find? (·.1 = name)).map (·.2)
  | _ => none

/-- A member that is written only when there is a value. -/
def optionalMember (name : String) (value : Option Json) : List (String × Json) :=
  match value with
  | some value => [(name, value)]
  | none => []

/-- The index that a pointer step writes: digits without a leading zero. -/
def pointerIndex? (step : String) : Option Nat :=
  match step.toList with
  | [] => none
  | ['0'] => some 0
  | '0' :: _ => none
  | cs => if cs.all Char.isDigit then some (Binary64.natOfDigits (cs.filterMap Text.decimalDigit?))
    else none

/-- The child of a value at one step of a pointer. -/
def child? (j : Json) (step : String) : Option Json :=
  match j with
  | object _ => j.get? step
  | array items => (pointerIndex? step).bind (items[·]?)
  | _ => none

/-- The name that a pointer step writes: `~1` is a slash and `~0` a tilde. -/
def unescapeStep : List Char → List Char
  | [] => []
  | '~' :: '1' :: rest => '/' :: unescapeStep rest
  | '~' :: '0' :: rest => '~' :: unescapeStep rest
  | c :: rest => c :: unescapeStep rest

/-- The part of a value at a pointer.  The empty pointer is the whole value; any other starts with a
slash. -/
def pointer? (j : Json) (path : String) : Option Json :=
  if path.isEmpty then some j
  else
    match path.splitOn "/" with
    | "" :: steps =>
      steps.foldl (fun part step ↦ part.bind (·.child? (String.ofList (unescapeStep step.toList))))
        (some j)
    | _ => none

end Json

end EventCatalog
