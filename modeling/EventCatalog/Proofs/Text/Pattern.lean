import EventCatalog.Text.Pattern

/-!
# Patterns that stand for one text

A regular expression is read piece by piece from its front.  A backslash takes the character behind
it along; every other character is a piece of its own.  A pattern none of whose pieces means
anything but its own character stands for one text only, which can be read off its pieces.
-/

namespace EventCatalog.Text

/-- A piece of a regular expression. -/
inductive PatternPiece where
  /-- A character by itself, or a backslash behind which nothing comes. -/
  | bare (c : Char)
  /-- A character behind a backslash. -/
  | escaped (c : Char)
  deriving DecidableEq

/-- The pieces of a regular expression. -/
def patternPieces : List Char → List PatternPiece
  | [] => []
  | ['\\'] => [.bare '\\']
  | '\\' :: c :: rest => .escaped c :: patternPieces rest
  | c :: rest => .bare c :: patternPieces rest

/-- The characters that do not stand for themselves in a regular expression. -/
def patternOperators : List Char :=
  ['\\', '.', '+', '*', '?', '(', ')', '|', '[', ']', '{', '}', '^', '$']

namespace PatternPiece

/-- The character of a piece. -/
def char : PatternPiece → Char
  | bare c => c
  | escaped c => c

/-- Whether a piece means its own character.  Behind a backslash, letters and digits have a meaning
of their own; what is no ASCII character counts as a letter here. -/
def IsLiteral : PatternPiece → Prop
  | bare c => c ∉ patternOperators
  | escaped c => c.toNat < 128 ∧ c.isAlphanum = false

end PatternPiece

/-- Whether a pattern has no special meaning and stands for exactly one text. -/
structure StandsFor (pattern text : String) : Prop where
  isLiteral : ∀ piece ∈ patternPieces pattern.toList, piece.IsLiteral
  chars : (patternPieces pattern.toList).map PatternPiece.char = text.toList

/-- A pattern stands for one text at most. -/
theorem StandsFor.unique {pattern text other : String} (h : StandsFor pattern text)
    (h' : StandsFor pattern other) : text = other :=
  String.toList_inj.1 (h.chars.symm.trans h'.chars)

theorem patternPieces_cons_of_ne {c : Char} (h : c ≠ '\\') (rest : List Char) :
    patternPieces (c :: rest) = .bare c :: patternPieces rest := by
  rw [patternPieces]
  · rintro rfl
    exact absurd rfl h
  · rintro d tail rfl
    exact absurd rfl h

theorem isLiteral_of_mem_specials {c : Char} (h : c ∈ patternSpecials) :
    c.toNat < 128 ∧ c.isAlphanum = false := by
  have hall : patternSpecials.all (fun c ↦ c.toNat < 128 && !c.isAlphanum) = true := by decide
  have hc := List.all_eq_true.1 hall c h
  rwa [Bool.and_eq_true, decide_eq_true_eq, Bool.not_eq_true'] at hc

theorem operators_subset_specials : patternOperators ⊆ patternSpecials := by
  decide

/-- Each character of a text becomes one piece of its pattern. -/
theorem patternPieces_escape (cs : List Char) :
    patternPieces (escapePatternChars cs) =
      cs.map fun c ↦ if patternSpecials.contains c then .escaped c else .bare c := by
  induction cs with
  | nil => rfl
  | cons c cs ih =>
    rw [escapePatternChars, List.flatMap_cons, ← escapePatternChars, List.map_cons, ← ih]
    cases hspecial : patternSpecials.contains c with
    | true => rfl
    | false =>
      have hne : c ≠ '\\' := by
        rintro rfl
        exact absurd hspecial (by decide)
      exact patternPieces_cons_of_ne hne _

/-- The pattern of a text stands for this text, whatever characters it is made of. -/
theorem standsFor_escapePattern (text : String) : StandsFor (escapePattern text) text := by
  have hpieces : patternPieces (escapePattern text).toList =
      text.toList.map fun c ↦ if patternSpecials.contains c then .escaped c else .bare c := by
    rw [escapePattern, String.toList_ofList, patternPieces_escape]
  constructor
  · rw [hpieces]
    intro piece hpiece
    obtain ⟨c, -, rfl⟩ := List.mem_map.1 hpiece
    split
    next hspecial => exact isLiteral_of_mem_specials (List.contains_iff_mem.1 hspecial)
    next hplain =>
      intro hoperator
      exact hplain (List.contains_iff_mem.2 (operators_subset_specials hoperator))
  · rw [hpieces, List.map_map]
    refine (List.map_congr_left fun c _ ↦ ?_).trans (List.map_id _)
    rw [Function.comp_apply]
    split <;> rfl

end EventCatalog.Text
