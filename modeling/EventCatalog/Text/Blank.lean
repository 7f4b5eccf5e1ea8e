/-!
# Blank Characters

Unicode's `White_Space` property and the trimming it induces.  A text is blank when every one of
its characters is; trimming removes the blank characters at both ends and keeps those between.
-/

namespace EventCatalog.Text

/-- The code points of Unicode's `White_Space` property, as closed ranges in ascending order. -/
def blankRanges : List (Nat × Nat) :=
  [(0x09, 0x0D), (0x20, 0x20), (0x85, 0x85), (0xA0, 0xA0), (0x1680, 0x1680), (0x2000, 0x200A),
    (0x2028, 0x2029), (0x202F, 0x202F), (0x205F, 0x205F), (0x3000, 0x3000)]

/-- Whether a character has Unicode's `White_Space` property. -/
def isBlank (c : Char) : Bool :=
  blankRanges.any fun range ↦ range.1 ≤ c.toNat && c.toNat ≤ range.2

def trimStart (cs : List Char) : List Char :=
  cs.dropWhile isBlank

def trimEnd (cs : List Char) : List Char :=
  (cs.reverse.dropWhile isBlank).reverse

/-- A text without the blank characters at its two ends. -/
def trim (s : String) : String :=
  String.ofList (trimEnd (trimStart s.toList))

/-- Whether a text holds blank characters only; the empty text does. -/
def isBlankText (s : String) : Bool :=
  s.toList.all isBlank

theorem trimStart_cons_of_blank {c : Char} (h : isBlank c = true) (cs : List Char) :
    trimStart (c :: cs) = trimStart cs := by
  simp [trimStart, h]

theorem trimStart_eq_nil_iff (cs : List Char) : trimStart cs = [] ↔ cs.all isBlank = true := by
  induction cs with
  | nil => simp [trimStart]
  | cons c cs ih =>
    by_cases h : isBlank c = true
    · rw [trimStart_cons_of_blank h]
      simp [ih, h]
    · simp [trimStart, h]

end EventCatalog.Text
