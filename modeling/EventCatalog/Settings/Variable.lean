import EventCatalog.Binary64.Decimal
import EventCatalog.Text.Blank
import EventCatalog.Text.Utf8

/-!
# Environment Variables

Settings are read from the variables of the process.  A variable whose bytes are no text counts as
unset.  A value that is set is never passed over: either it is read or it is an error that names its
variable; only blanks around it do not matter.
-/

namespace EventCatalog

/-- The variables of a process: the bytes of their values by name. -/
abbrev Variables := List (String × List UInt8)

/-- The text of a variable. -/
def Variables.get? (v : Variables) (name : String) : Option String :=
  (v.find? (·.1 = name)).bind fun found ↦ Text.ofBytes? found.2

/-- Why a text is no value of a setting. -/
inductive ValueFault where
  | integer (f : Text.IntegerFault)
  | number (f : Binary64.ReadFault)
  | truth
  deriving DecidableEq, Repr

/-- What a text lacks. -/
def ValueFault.message : ValueFault → String
  | integer .empty => "cannot parse integer from empty string"
  | integer .invalidDigit => "invalid digit found in string"
  | integer .tooLarge => "number too large to fit in target type"
  | number .empty => "cannot parse float from empty string"
  | number .invalid => "invalid float literal"
  | truth => "provided string was not \x60true\x60 or \x60false\x60"

/-- A rule that values break together or alone. -/
inductive Violation where
  | zeroPageSize
  /-- A radius is a positive finite number. -/
  | unusableRadius (radius : Binary64)
  | poolBounds (least most : Nat)
  deriving DecidableEq, Repr

def Violation.message : Violation → String
  | zeroPageSize => "must be greater than zero"
  | unusableRadius radius => "expected a positive number of meters, got " ++ radius.toPlainText
  | poolBounds least most =>
    "min pool size " ++ toString least ++ " exceeds max pool size " ++ toString most

/-- Why settings cannot be read. -/
inductive SettingFault where
  | missing (name : String)
  | unreadable (name : String) (cause : ValueFault)
  | invalid (name : String) (cause : Violation)
  deriving DecidableEq, Repr

def SettingFault.message : SettingFault → String
  | missing name => "Environment variable '" ++ name ++ "' is required but not set"
  | unreadable name cause =>
    "Failed to parse environment variable '" ++ name ++ "': " ++ cause.message
  | invalid name cause =>
    "Invalid configuration for '" ++ name ++ "': " ++ cause.message

namespace Setting

abbrev Reader (α : Type) := String → Except ValueFault α

/-- An unsigned integer of at most `bound`. -/
def unsigned (bound : Nat) : Reader Nat := fun s ↦ (Text.readUnsigned bound s).mapError .integer

def number : Reader Binary64 := fun s ↦ (Binary64.read s).mapError .number

def truth : Reader Bool
  | "true" => .ok true
  | "false" => .ok false
  | _ => .error .truth

end Setting

namespace Variables

/-- The text of a variable, or a text for when it is unset. -/
def textOr (v : Variables) (name fallback : String) : String := (v.get? name).getD fallback

/-- The text of a variable that has to be set. -/
def required (v : Variables) (name : String) : Except SettingFault String :=
  match v.get? name with
  | some text => .ok text
  | none => .error (.missing name)

/-- Reads the text of a variable without the blanks around it. -/
def readText (read : Setting.Reader α) (name text : String) : Except SettingFault α :=
  (read (Text.trim text)).mapError (.unreadable name)

/-- The value of a variable, or a value for when it is unset.  A blank text is a value. -/
def readOr (v : Variables) (read : Setting.Reader α) (name : String) (fallback : α) :
    Except SettingFault α :=
  match v.get? name with
  | some text => readText read name text
  | none => .ok fallback

/-- The value of a variable that may be left blank or unset. -/
def readOptional (v : Variables) (read : Setting.Reader α) (name : String) :
    Except SettingFault (Option α) :=
  match v.get? name with
  | some text => if Text.isBlankText text then .ok none else (readText read name text).map some
  | none => .ok none

end Variables

end EventCatalog
