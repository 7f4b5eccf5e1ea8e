import EventCatalog.Text.Blank
import EventCatalog.Text.Digit
import Mathlib.Algebra.Group.Nat.Defs

/-!
# Digits as characters

A digit character keeps its value, in decimal and in hexadecimal, and it is none of the characters
that stand between numbers: no blank, no sign, no hyphen.  So a run of printed digits ends where the
number ends.
-/

namespace EventCatalog.Text

theorem decimalDigit?_digitChar : ∀ n < 10, decimalDigit? (digitChar n) = some n := by
  decide

theorem decimalDigit?_eq_some_iff {c : Char} {d : Nat} :
    decimalDigit? c = some d ↔ d < 10 ∧ c = digitChar d := by
  constructor
  · intro h
    rw [decimalDigit?] at h
    split at h
    next hrange =>
      have hlow : '0'.toNat ≤ c.toNat := UInt32.le_iff_toNat_le.1 hrange.1
      have hhigh : c.toNat ≤ '9'.toNat := UInt32.le_iff_toNat_le.1 hrange.2
      have hzero : '0'.toNat = 48 := rfl
      have hnine : '9'.toNat = 57 := rfl
      obtain rfl := Option.some.inj h
      have hlt : c.toNat - '0'.toNat < 10 := by omega
      refine ⟨hlt, ?_⟩
      rw [digitChar, if_pos hlt, Nat.add_sub_cancel' hlow, Char.ofNat_toNat]
    next => cases h
  · rintro ⟨hd, rfl⟩
    exact decimalDigit?_digitChar d hd

theorem isDigit_iff {c : Char} : c.isDigit = true ↔ ∃ d < 10, c = digitChar d := by
  have hsome : c.isDigit = true ↔ ∃ d, decimalDigit? c = some d := by
    simp [decimalDigit?, Char.isDigit, Char.le_def]
  simp only [hsome, decimalDigit?_eq_some_iff]

theorem hexDigit?_digitChar : ∀ n < 16, hexDigit? (digitChar n) = some n := by
  decide

theorem isBlank_digitChar : ∀ n < 16, isBlank (digitChar n) = false := by
  decide

theorem digitChar_ne_hyphen : ∀ n < 16, digitChar n ≠ '-' := by
  decide

theorem digitChar_ne_plus : ∀ n < 16, digitChar n ≠ '+' := by
  decide

theorem mem_digits {base count n : Nat} {c : Char} (hbase : 0 < base)
    (h : c ∈ digits base count n) : ∃ d < base, c = digitChar d := by
  induction count generalizing n with
  | zero => simp [digits] at h
  | succ count ih =>
    rw [digits, List.mem_append, List.mem_singleton] at h
    rcases h with h | rfl
    · exact ih h
    · exact ⟨n % base, Nat.mod_lt _ hbase, rfl⟩

/-- At least one digit begins with a digit character. -/
theorem exists_digits_eq_cons {base : Nat} (hbase : 0 < base) (count n : Nat) :
    ∃ d < base, ∃ rest, digits base (count + 1) n = digitChar d :: rest := by
  cases hdigits : digits base (count + 1) n with
  | nil =>
    have hlength := length_digits base (count + 1) n
    simp [hdigits] at hlength
  | cons c rest =>
    obtain ⟨d, hd, rfl⟩ := mem_digits hbase (hdigits ▸ List.mem_cons_self : c ∈ _)
    exact ⟨d, hd, rest, rfl⟩

/-- Printed digits are no blanks, so nothing is trimmed in front of them. -/
theorem trimStart_digits {base count : Nat} (hbase : 0 < base) (hbase' : base ≤ 16) (n : Nat)
    (rest : List Char) :
    trimStart (digits base (count + 1) n ++ rest) = digits base (count + 1) n ++ rest := by
  obtain ⟨d, hd, tail, htail⟩ := exists_digits_eq_cons hbase count n
  have hblank := isBlank_digitChar d (by omega)
  simp [htail, trimStart, hblank]

/-- As many digits as a decimal number needs, or more, hold the number. -/
theorem lt_pow_of_padded (width n : Nat) : n < 10 ^ max width (Nat.toDigits 10 n).length := by
  have hneeded : n < 10 ^ (Nat.toDigits 10 n).length :=
    (Nat.length_toDigits_le_iff (by decide) Nat.length_toDigits_pos).1 (Nat.le_refl _)
  have hmore : 10 ^ (Nat.toDigits 10 n).length ≤ 10 ^ max width (Nat.toDigits 10 n).length :=
    Nat.pow_le_pow_right (by decide) (Nat.le_max_right _ _)
  omega

end EventCatalog.Text
