import EventCatalog.Binary64.Basic
import EventCatalog.Error

/-!
# Validation Rules

Rules on the fields of an input.  All rules are checked, and the faults are reported in the order of
their field paths, one line for each.
-/

namespace EventCatalog.Validation

/-- A field that breaks its rule: the path to the field, and what is wrong. -/
structure Fault where
  path : String
  message : String
  deriving DecidableEq, Repr

def Fault.line (f : Fault) : String := f.path ++ ": " ++ f.message

/-- Inserts a fault before the first one whose path is not smaller. -/
def insertFault (f : Fault) : List Fault → List Fault
  | [] => [f]
  | g :: gs => if f.path ≤ g.path then f :: g :: gs else g :: insertFault f gs

/-- The lines of some faults, in the order of their paths. -/
def report (faults : List Fault) : String :=
  "\n".intercalate ((faults.foldr insertFault []).map Fault.line)

/-- Accepts an input without faults. -/
def check (faults : List Fault) : Except EventError Unit :=
  if faults.isEmpty then .ok () else .error (.validation (report faults))

/-- The rule of a field that is set: a fault unless it holds. -/
def rule (path message : String) (holds : α → Bool) (value : Option α) : List Fault :=
  match value with
  | some a => if holds a then [] else [⟨path, message⟩]
  | none => []

/-- Not below `-bound` and not above `bound`.  What is no number is neither. -/
def withinBounds (bound : Nat) (x : Binary64) : Bool :=
  !(Binary64.ofNat bound).lt x && !x.lt (Binary64.ofInt (-(bound : Int)))

def isPositive (x : Binary64) : Bool := Binary64.zero.lt x

def longitude (path : String) (value : Option Binary64) : List Fault :=
  rule path "lng must be within [-180, 180]" (withinBounds 180) value

def latitude (path : String) (value : Option Binary64) : List Fault :=
  rule path "lat must be within [-90, 90]" (withinBounds 90) value

end EventCatalog.Validation
