import EventCatalog.Text.Blank
import Mathlib.Data.List.TakeWhile

/-!
# Blanks around a text

Trimming takes the longest blank parts off both ends of a text.  What is left begins and ends with a
character that is not blank, unless nothing is left, and no other part of the text does so and has
only blanks around it.
-/

namespace EventCatalog.Text

/-- Whether one text is another one without the blanks at its two ends. -/
structure Trims (text trimmed : String) : Prop where
  parts : ∃ front back : List Char, text.toList = front ++ (trimmed.toList ++ back) ∧
    front.all isBlank = true ∧ back.all isBlank = true
  head : ∀ c ∈ trimmed.toList.head?, isBlank c = false
  last : ∀ c ∈ trimmed.toList.getLast?, isBlank c = false

variable {text trimmed : String} {front cs : List Char}

theorem trimStart_append (h : front.all isBlank = true) (cs : List Char) :
    trimStart (front ++ cs) = trimStart cs := by
  induction front with
  | nil => rfl
  | cons c front ih =>
    rw [List.all_cons, Bool.and_eq_true] at h
    rw [List.cons_append, trimStart_cons_of_blank h.1, ih h.2]

theorem trimStart_of_head (h : ∀ c ∈ cs.head?, isBlank c = false) : trimStart cs = cs := by
  cases cs with
  | nil => rfl
  | cons c cs => exact List.dropWhile_cons_of_neg (by simp [h c rfl])

theorem exists_eq_append_trimStart (cs : List Char) :
    ∃ front, cs = front ++ trimStart cs ∧ front.all isBlank = true ∧
      ∀ c ∈ (trimStart cs).head?, isBlank c = false := by
  refine ⟨cs.takeWhile isBlank, List.takeWhile_append_dropWhile.symm, List.all_takeWhile, ?_⟩
  intro c hc
  have hnot := List.head?_dropWhile_not isBlank cs
  rw [Option.mem_def, trimStart] at hc
  rw [hc] at hnot
  simpa using hnot

/-- The end of a text is trimmed as its front is, read backwards. -/
theorem trimEnd_eq (cs : List Char) : trimEnd cs = (trimStart cs.reverse).reverse := rfl

theorem trims_trim (text : String) : Trims text (trim text) := by
  obtain ⟨front, hfront, hblank, hhead⟩ := exists_eq_append_trimStart text.toList
  obtain ⟨back, hback, hblank', hlast⟩ :=
    exists_eq_append_trimStart (trimStart text.toList).reverse
  have htrim : (trim text).toList = (trimStart (trimStart text.toList).reverse).reverse := by
    rw [trim, String.toList_ofList, trimEnd_eq]
  have hrest : trimStart text.toList = (trim text).toList ++ back.reverse := by
    rw [htrim, ← List.reverse_append, ← hback, List.reverse_reverse]
  constructor
  · refine ⟨front, back.reverse, ?_, hblank, ?_⟩
    · rw [← hrest]
      exact hfront
    · rw [List.all_reverse]
      exact hblank'
  · intro c hc
    apply hhead c
    rw [hrest, List.head?_append, hc]
    rfl
  · intro c hc
    apply hlast c
    rwa [htrim, List.getLast?_reverse] at hc

theorem trimEnd_trimStart_append (h : Trims text trimmed) {back : List Char}
    (hback : back.all isBlank = true) :
    trimEnd (trimStart (trimmed.toList ++ back)) = trimmed.toList := by
  cases hchars : trimmed.toList with
  | nil =>
    rw [List.nil_append, (trimStart_eq_nil_iff back).2 hback]
    rfl
  | cons c cs =>
    have hhead : ∀ d ∈ (c :: cs ++ back).head?, isBlank d = false := by
      have hfirst := h.head
      rw [hchars] at hfirst
      exact hfirst
    have hlast : ∀ d ∈ (c :: cs).reverse.head?, isBlank d = false := by
      rw [List.head?_reverse, ← hchars]
      exact h.last
    rw [← List.all_reverse] at hback
    rw [trimStart_of_head hhead, trimEnd_eq, List.reverse_append, trimStart_append hback,
      trimStart_of_head hlast, List.reverse_reverse]

theorem Trims.trim_eq (h : Trims text trimmed) : trim text = trimmed := by
  obtain ⟨front, back, htext, hfront, hback⟩ := h.parts
  rw [trim, htext, trimStart_append hfront, trimEnd_trimStart_append h hback,
    String.ofList_toList]

/-- A text has one trimmed form. -/
theorem trims_iff : Trims text trimmed ↔ trim text = trimmed := by
  refine ⟨Trims.trim_eq, ?_⟩
  rintro rfl
  exact trims_trim text

theorem trim_eq_empty_iff : trim text = "" ↔ isBlankText text = true := by
  rw [← trims_iff, isBlankText]
  constructor
  · intro h
    obtain ⟨front, back, htext, hfront, hback⟩ := h.parts
    rw [htext, String.toList_empty, List.nil_append, List.all_append, hfront, hback]
    rfl
  · intro h
    exact ⟨⟨text.toList, [], (List.append_nil _).symm, h, rfl⟩, nofun, nofun⟩

/-- What is left of a text is not blank. -/
theorem Trims.isBlankText_eq_false (h : Trims text trimmed) (hne : trimmed ≠ "") :
    isBlankText trimmed = false := by
  rw [isBlankText]
  cases hchars : trimmed.toList with
  | nil => exact absurd (String.toList_eq_nil_iff.1 hchars) hne
  | cons c cs =>
    have hfirst : isBlank c = false := by
      apply h.head
      rw [hchars]
      rfl
    rw [List.all_cons, hfirst, Bool.false_and]

end EventCatalog.Text
