import EventCatalog.Proofs.Except
import EventCatalog.Proofs.Text.Digit
import Mathlib.Data.Nat.Digits.Defs

/-!
# Unsigned integers as texts

Which texts are unsigned integers: decimal digits behind at most one plus sign, and nothing else.
Zeros in front do not matter.  The value never sinks while digits are read, so that a bound on all
values read on the way is one on the last value.
-/

namespace EventCatalog.Text

/-- Whether a text writes a number: at least one decimal digit, the most significant one first,
behind a plus sign or none. -/
def WritesUnsigned (s : String) (n : Nat) : Prop :=
  ∃ sign ∈ [[], ['+']], ∃ values : List Nat, values ≠ [] ∧ (∀ d ∈ values, d < 10) ∧
    s.toList = sign ++ values.map digitChar ∧ n = Nat.ofDigits 10 values.reverse

variable {bound value n : Nat} {cs : List Char} {s : String}

/-- The value of some digits behind a value. -/
def continued (value : Nat) (values : List Nat) : Nat :=
  values.foldl (fun value d ↦ value * 10 + d) value

theorem le_continued (value : Nat) (values : List Nat) : value ≤ continued value values := by
  induction values generalizing value with
  | nil => exact Nat.le_refl value
  | cons d values ih => exact Nat.le_trans (by omega) (ih (value * 10 + d))

theorem continued_zero (values : List Nat) :
    continued 0 values = Nat.ofDigits 10 values.reverse := by
  rw [Nat.ofDigits_eq_foldr, List.foldr_reverse, continued]
  congr 1
  funext value d
  change value * 10 + d = d + 10 * value
  omega

/-- Digits are read exactly if their value is within the bound. -/
theorem readDigits_eq_ok_iff (hvalue : value ≤ bound) :
    readDigits bound value cs = .ok n ↔
      ∃ values : List Nat, (∀ d ∈ values, d < 10) ∧ cs = values.map digitChar ∧
        n = continued value values ∧ n ≤ bound := by
  induction cs generalizing value with
  | nil =>
    constructor
    · intro h
      obtain rfl := Except.ok.inj h
      exact ⟨[], List.forall_mem_nil _, rfl, rfl, hvalue⟩
    · rintro ⟨values, -, hvalues, rfl, -⟩
      obtain rfl := List.map_eq_nil_iff.1 hvalues.symm
      rfl
  | cons c cs ih =>
    rw [readDigits]
    constructor
    · intro h
      split at h
      next => cases h
      next digit hdigit =>
        split at h
        next hle =>
          obtain ⟨hlt, hc⟩ := decimalDigit?_eq_some_iff.1 hdigit
          obtain ⟨values, hvalues, hcs, hn, hbound⟩ := (ih hle).1 h
          refine ⟨digit :: values, List.forall_mem_cons.2 ⟨hlt, hvalues⟩, ?_, hn, hbound⟩
          rw [List.map_cons, ← hc, ← hcs]
        next => cases h
    · rintro ⟨values, hvalues, hcs, hn, hbound⟩
      cases values with
      | nil => cases hcs
      | cons digit values =>
        obtain ⟨hlt, hlater⟩ := List.forall_mem_cons.1 hvalues
        rw [List.map_cons, List.cons.injEq] at hcs
        have hle : value * 10 + digit ≤ bound :=
          Nat.le_trans (le_continued _ values) (hn ▸ hbound)
        rw [decimalDigit?_eq_some_iff.2 ⟨hlt, hcs.1⟩]
        simp only [if_pos hle]
        exact (ih hle).2 ⟨values, hlater, hcs.2, hn, hbound⟩

/-- Behind a sign or none, digits are read. -/
theorem exists_sign_of_readUnsigned (h : readUnsigned bound s = .ok n) :
    ∃ sign ∈ [[], ['+']], ∃ cs, cs ≠ [] ∧ s.toList = sign ++ cs ∧
      readDigits bound 0 cs = .ok n := by
  rw [readUnsigned] at h
  split at h
  next => cases h
  next => cases h
  next cs hsome hchars =>
    exact ⟨['+'], by simp, cs, hsome, hchars, h⟩
  next hsome _ _ => exact ⟨[], by simp, s.toList, hsome, rfl, h⟩

/-- A text is read exactly if it writes a number within the bound. -/
theorem readUnsigned_eq_ok_iff :
    readUnsigned bound s = .ok n ↔ WritesUnsigned s n ∧ n ≤ bound := by
  constructor
  · intro h
    obtain ⟨sign, hsign, cs, hsome, hchars, hread⟩ := exists_sign_of_readUnsigned h
    obtain ⟨values, hvalues, rfl, rfl, hbound⟩ := (readDigits_eq_ok_iff (Nat.zero_le _)).1 hread
    refine ⟨⟨sign, hsign, values, ?_, hvalues, hchars, continued_zero values⟩, hbound⟩
    rintro rfl
    exact hsome rfl
  · rintro ⟨⟨sign, hsign, values, hsome, hvalues, hchars, hn⟩, hbound⟩
    rw [← continued_zero] at hn
    have hread : readDigits bound 0 (values.map digitChar) = .ok n :=
      (readDigits_eq_ok_iff (Nat.zero_le _)).2 ⟨values, hvalues, rfl, hn, hbound⟩
    obtain ⟨d, later, rfl⟩ := List.exists_cons_of_ne_nil hsome
    have hplus : digitChar d ≠ '+' :=
      digitChar_ne_plus d (Nat.lt_of_lt_of_le (hvalues d List.mem_cons_self) (by decide))
    rw [List.map_cons] at hchars hread
    rcases List.mem_pair.1 hsign with rfl | rfl
    · rw [readUnsigned, hchars]
      split
      next hnil => cases hnil
      next hplain =>
        exact absurd (List.cons.inj hplain).1 hplus
      next cs _ hcons => exact absurd (List.cons.inj hcons).1 hplus
      next => exact hread
    · rw [readUnsigned, hchars]
      exact hread

end EventCatalog.Text
