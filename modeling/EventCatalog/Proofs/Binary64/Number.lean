import EventCatalog.Binary64.Decimal

/-!
# Arithmetic that stays among numbers

Rounding a quotient of two natural numbers gives a number, possibly an infinite one.  A product is
no number only where an infinity meets a zero, a quotient only where two infinities or two zeros
meet; so multiplying with a finite number other than zero, or dividing by one, stays among numbers.
The range of two numbers, ends included, holds numbers only.
-/

namespace EventCatalog.Binary64

/-- The magnitude of a word that is written with a sign and a magnitude. -/
theorem magnitude_ofMagnitude {m : Nat} (negative : Bool) (h : m ≤ infiniteMagnitude) :
    (ofMagnitude negative m).magnitude = m := by
  have hbound : infiniteMagnitude = 0x7FF0000000000000 := rfl
  have hweight : signWeight = 0x8000000000000000 := rfl
  rw [magnitude, ofMagnitude, BitVec.toNat_ofNat, hweight]
  cases negative <;> simp only [if_true, if_false, Bool.false_eq_true] <;> omega

theorem isNaN_ofMagnitude {m : Nat} (negative : Bool) (h : m ≤ infiniteMagnitude) :
    (ofMagnitude negative m).isNaN = false := by
  rw [isNaN, magnitude_ofMagnitude negative h]
  simpa using h

@[simp]
theorem isNaN_infinity (negative : Bool) : (infinity negative).isNaN = false :=
  isNaN_ofMagnitude negative (Nat.le_refl _)

@[simp]
theorem isNaN_ofQuotient (negative : Bool) (num den : Nat) :
    (ofQuotient negative num den).isNaN = false := by
  unfold ofQuotient
  split
  · exact isNaN_ofMagnitude negative (Nat.zero_le _)
  · exact isNaN_ofMagnitude negative (Nat.min_le_right _ _)

@[simp]
theorem isNaN_ofNat (n : Nat) : (ofNat n).isNaN = false := isNaN_ofQuotient false n 1

@[simp]
theorem isNaN_ofInt (n : Int) : (ofInt n).isNaN = false := isNaN_ofQuotient _ _ 1

/-- Whether a word is a finite number other than zero. -/
def IsFactor (x : Binary64) : Prop := x.isFinite = true ∧ x.isZero = false

instance (x : Binary64) : Decidable x.IsFactor :=
  inferInstanceAs (Decidable (x.isFinite = true ∧ x.isZero = false))

theorem IsFactor.isNaN {x : Binary64} (h : x.IsFactor) : x.isNaN = false := by
  have hfinite := h.1
  simp only [isFinite, decide_eq_true_eq] at hfinite
  simp only [Binary64.isNaN, decide_eq_false_iff_not]
  omega

theorem IsFactor.isInfinite {x : Binary64} (h : x.IsFactor) : x.isInfinite = false := by
  have hfinite := h.1
  simp only [isFinite, decide_eq_true_eq] at hfinite
  simp only [Binary64.isInfinite, decide_eq_false_iff_not]
  omega

/-- Whether a word is a number within a range, its ends included. -/
structure IsWithin (x low high : Binary64) : Prop where
  isNumber : x.isNaN = false
  low_le : low.rank ≤ x.rank
  le_high : x.rank ≤ high.rank

theorem natAbs_rank (x : Binary64) : x.rank.natAbs = x.magnitude := by
  rw [rank]
  split <;> omega

/-- A number between two finite ones is finite. -/
theorem IsWithin.isFinite {x low high : Binary64} (h : x.IsWithin low high)
    (hlow : low.isFinite = true) (hhigh : high.isFinite = true) : x.isFinite = true := by
  have hx := x.natAbs_rank
  have hlower := low.natAbs_rank
  have hupper := high.natAbs_rank
  have hle := h.low_le
  have hge := h.le_high
  rw [Binary64.isFinite, decide_eq_true_iff] at *
  omega

theorem not_lt_iff_rank_le {x y : Binary64} (hx : x.isNaN = false) (hy : y.isNaN = false) :
    (!x.lt y) = true ↔ y.rank ≤ x.rank := by
  simp [lt, hx, hy]

end EventCatalog.Binary64
