/-!
# Splitting

The runs of a text between separators, and the two parts of a sequence at its first separator.
-/

namespace EventCatalog.Text

/-- The runs of a text, empty runs included. -/
def splitText (separator : Char) (s : String) : List String :=
  (s.toList.splitOn separator).map String.ofList

variable {α : Type} [DecidableEq α]

/-- What stands before the first separator, and what stands behind it. -/
def splitFirst? (separator : α) : List α → Option (List α × List α)
  | [] => none
  | a :: rest =>
    if a = separator then some ([], rest)
    else (splitFirst? separator rest).map fun parts ↦ (a :: parts.1, parts.2)

/-- A first part without the separator ends at the separator behind it. -/
theorem splitFirst?_append {separator : α} {front : List α} (h : separator ∉ front)
    (back : List α) : splitFirst? separator (front ++ separator :: back) = some (front, back) := by
  induction front with
  | nil => exact if_pos rfl
  | cons a front ih =>
    rw [List.mem_cons, not_or] at h
    rw [List.cons_append, splitFirst?, if_neg (Ne.symm h.1), ih h.2]
    rfl

end EventCatalog.Text
