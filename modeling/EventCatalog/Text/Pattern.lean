/-!
# Literal Patterns

The regular expression that matches exactly a given text.
-/

namespace EventCatalog.Text

/-- The characters with a meaning of their own in a regular expression, in some place or mode. -/
def patternSpecials : List Char :=
  ['\\', '.', '+', '*', '?', '(', ')', '|', '[', ']', '{', '}', '^', '$', '#', '&', '-', '~']

/-- A backslash in front of every special character. -/
def escapePatternChars (cs : List Char) : List Char :=
  cs.flatMap fun c ↦ if patternSpecials.contains c then ['\\', c] else [c]

/-- The pattern of a literal text. -/
def escapePattern (s : String) : String := String.ofList (escapePatternChars s.toList)

end EventCatalog.Text
