import EventCatalog.Instant.Basic
import Mathlib.Order.Defs.LinearOrder

/-!
# Instants and their milliseconds

Stored times are whole milliseconds.  Two instants may lie in one millisecond, and a leap second
shares its milliseconds with the second after it, so the order of instants is not that of their
milliseconds.  Where the earlier one lies outside a leap second, its milliseconds are at least not
the larger ones.

As a bound on stored times an instant is rounded down.  An upper bound outside a leap second loses
nothing by that; a lower bound lets the whole millisecond in which it lies pass.
-/

namespace EventCatalog.Instant

/-- Whether an instant lies in a leap second. -/
def InLeapSecond (t : Instant) : Prop := 1000000000 ≤ t.nanos

instance (t : Instant) : Decidable t.InLeapSecond :=
  inferInstanceAs (Decidable (1000000000 ≤ t.nanos))

/-- Whether two instants lie in one millisecond of one second. -/
def SameMillisecond (a b : Instant) : Prop :=
  a.seconds = b.seconds ∧ a.nanos / 1000000 = b.nanos / 1000000

/-- Whether an instant lies in a leap second, and another one in the second after it and no further
on in its second than the first one in the leap second. -/
def FoldsOver (a b : Instant) : Prop :=
  a.InLeapSecond ∧ b.seconds = a.seconds + 1 ∧ b.nanos / 1000000 + 1000 ≤ a.nanos / 1000000

instance (a b : Instant) : Decidable (a.SameMillisecond b) :=
  inferInstanceAs (Decidable (a.seconds = b.seconds ∧ a.nanos / 1000000 = b.nanos / 1000000))

instance (a b : Instant) : Decidable (a.FoldsOver b) :=
  inferInstanceAs (Decidable (a.InLeapSecond ∧ b.seconds = a.seconds + 1 ∧
    b.nanos / 1000000 + 1000 ≤ a.nanos / 1000000))

theorem le_iff (a b : Instant) :
    a ≤ b ↔ a.seconds < b.seconds ∨ a.seconds = b.seconds ∧ a.nanos ≤ b.nanos := by
  change ¬b < a ↔ _
  rw [lt_iff]
  omega

instance : LinearOrder Instant where
  le := (· ≤ ·)
  lt := (· < ·)
  le_refl := not_lt_self
  le_trans a b c hab hbc := by
    rw [le_iff] at *
    omega
  lt_iff_le_not_ge a b := by
    rw [le_iff, le_iff, lt_iff]
    omega
  le_antisymm a b hab hba := by
    rw [le_iff] at hab hba
    ext <;> omega
  le_total a b := by
    rw [le_iff, le_iff]
    omega
  toDecidableLE := inferInstance
  toDecidableEq := inferInstance
  toDecidableLT := inferInstance

theorem toMillis_le_of_le {a b : Instant} (ha : ¬a.InLeapSecond) (h : a ≤ b) :
    a.toMillis ≤ b.toMillis := by
  rw [le_iff] at h
  rw [InLeapSecond] at ha
  rw [toMillis, toMillis]
  omega

/-- Of two instants in order the milliseconds are in order too, but in one millisecond and where a
leap second runs into the second after it. -/
theorem toMillis_lt_iff_of_lt {a b : Instant} (h : a < b) :
    a.toMillis < b.toMillis ↔ ¬a.SameMillisecond b ∧ ¬a.FoldsOver b := by
  have hnanos := a.nanos_lt
  rw [lt_iff] at h
  rw [SameMillisecond, FoldsOver, InLeapSecond, toMillis, toMillis]
  omega

/-- Whether the milliseconds of an instant have an instant of their own.  Those of the leap second
behind the last second do not. -/
def IsStorable (t : Instant) : Prop := first.toMillis ≤ t.toMillis ∧ t.toMillis ≤ last.toMillis

instance (t : Instant) : Decidable t.IsStorable :=
  inferInstanceAs (Decidable (first.toMillis ≤ t.toMillis ∧ t.toMillis ≤ last.toMillis))

/-- Whether an instant is the one of a number of milliseconds. -/
structure IsOfMillis (t : Instant) (ms : Int) : Prop where
  seconds : t.seconds = ms / 1000
  nanos : t.nanos = (ms % 1000).toNat * 1000000

/-- The milliseconds of the instant of a number of milliseconds are that number. -/
theorem IsOfMillis.toMillis {t : Instant} {ms : Int} (h : t.IsOfMillis ms) : t.toMillis = ms := by
  rw [Instant.toMillis, h.seconds, h.nanos]
  omega

/-- Whether an instant is not after the one of a number of milliseconds, be that one that can be
written or not. -/
def AtOrBefore (t : Instant) (ms : Int) : Prop :=
  t.seconds < ms / 1000 ∨ t.seconds = ms / 1000 ∧ t.nanos ≤ (ms % 1000).toNat * 1000000

/-- Whether an instant is not before the one of a number of milliseconds. -/
def AtOrAfter (t : Instant) (ms : Int) : Prop :=
  ms / 1000 < t.seconds ∨ ms / 1000 = t.seconds ∧ (ms % 1000).toNat * 1000000 ≤ t.nanos

/-- Whether a number of milliseconds is after an instant in a leap second, and still among those
that the leap second reaches into up to that instant. -/
def FoldsInto (t : Instant) (ms : Int) : Prop :=
  t.InLeapSecond ∧ t.seconds < ms / 1000 ∧ ms ≤ t.toMillis

instance (t : Instant) (ms : Int) : Decidable (t.AtOrBefore ms) :=
  inferInstanceAs (Decidable (t.seconds < ms / 1000 ∨
    t.seconds = ms / 1000 ∧ t.nanos ≤ (ms % 1000).toNat * 1000000))

instance (t : Instant) (ms : Int) : Decidable (t.AtOrAfter ms) :=
  inferInstanceAs (Decidable (ms / 1000 < t.seconds ∨
    ms / 1000 = t.seconds ∧ (ms % 1000).toNat * 1000000 ≤ t.nanos))

/-- Rounded down, an instant is not above a number of milliseconds also when it lies within that
millisecond. -/
theorem toMillis_le_iff (t : Instant) (ms : Int) :
    t.toMillis ≤ ms ↔ ms = t.toMillis ∨ t.AtOrBefore ms ∧ ¬t.FoldsInto ms := by
  rw [FoldsInto, InLeapSecond, AtOrBefore, Instant.toMillis]
  omega

/-- Rounded down, an instant is not below the numbers of milliseconds that it is not before, and not
below those that its leap second reaches into. -/
theorem le_toMillis_iff (t : Instant) (ms : Int) :
    ms ≤ t.toMillis ↔ t.AtOrAfter ms ∨ t.FoldsInto ms := by
  rw [FoldsInto, InLeapSecond, AtOrAfter, Instant.toMillis]
  omega

theorem IsOfMillis.toMillis_le_iff {t : Instant} (h : t.IsOfMillis t.toMillis) (ms : Int) :
    t.toMillis ≤ ms ↔ t.AtOrBefore ms := by
  rw [AtOrBefore, h.seconds, h.nanos]
  omega

theorem le_toMillis_iff_of_not_inLeapSecond {t : Instant} (h : ¬t.InLeapSecond) (ms : Int) :
    ms ≤ t.toMillis ↔ t.AtOrAfter ms := by
  rw [le_toMillis_iff, FoldsInto]
  exact or_iff_left fun hfolds ↦ h hfolds.1

theorem exists_make? {seconds : Int} {nanos : Nat} (hnanos : nanos < 1000000000)
    (hlower : firstSecond ≤ seconds) (hupper : seconds ≤ lastSecond) :
    ∃ t, make? seconds nanos = some t ∧ t.seconds = seconds ∧ t.nanos = nanos := by
  rw [firstSecond] at hlower
  rw [lastSecond] at hupper
  have hvalid : nanos < 2000000000 ∧ -8334601228800 ≤ seconds ∧ seconds ≤ 8210266876799 := by
    omega
  exact ⟨_, dif_pos hvalid, rfl, rfl⟩

-- As an equation between functions this is the definition.  Unfolding an application makes the
-- kernel reduce the match instead, and it counts nanoseconds there.
theorem ofMillis_eq : ofMillis = fun ms ↦
    match make? (ms / 1000) ((ms % 1000).toNat * 1000000) with
    | some t => t
    | none => if ms < 0 then first else last := rfl

theorem isOfMillis_ofMillis {ms : Int} (hfirst : first.toMillis ≤ ms) (hlast : ms ≤ last.toMillis) :
    (ofMillis ms).IsOfMillis ms := by
  have hlower : first.toMillis = -8334601228800000 := by decide
  have hupper : last.toMillis = 8210266876799999 := by decide
  have hnanos : (ms % 1000).toNat * 1000000 < 1000000000 := by omega
  obtain ⟨t, hmake, hseconds, hsame⟩ := exists_make? hnanos
    (show firstSecond ≤ ms / 1000 by rw [firstSecond]; omega)
    (show ms / 1000 ≤ lastSecond by rw [lastSecond]; omega)
  rw [ofMillis_eq]
  simp only [hmake]
  exact ⟨hseconds, hsame⟩

end EventCatalog.Instant
