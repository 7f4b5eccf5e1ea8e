import EventCatalog.Text.Utf8

/-!
# Header Fields

The fields of a request.  A name may stand several times; where one value is asked for, the first
field counts.  A value is any byte sequence and has a text only when its bytes are visible ASCII
characters, blanks or tabs.
-/

namespace EventCatalog.Http

structure Header where
  name : String
  value : List UInt8
  deriving DecidableEq, Repr

/-- Whether a byte is a visible ASCII character, a blank or a tab. -/
def isVisible (b : UInt8) : Bool :=
  b = '\t'.toUInt8 || (' '.toUInt8 ≤ b && b ≤ '~'.toUInt8)

namespace Header

def text? (h : Header) : Option String :=
  if h.value.all isVisible then Text.ofBytes? h.value else none

/-- The fields of a name, which is compared without regard to case. -/
def named (name : String) (headers : List Header) : List Header :=
  headers.filter fun h ↦ h.name.toLower = name.toLower

def firstText? (name : String) (headers : List Header) : Option String :=
  (named name headers).head?.bind text?

end Header

end EventCatalog.Http
