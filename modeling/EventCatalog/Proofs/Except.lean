import Mathlib.Data.List.Forall2

/-!
# Outcomes

What a computation in several steps says about its steps.  It has a value when all of its steps have
one, and its error is that of the first step without a value.
-/

namespace EventCatalog

variable {ε α β : Type} {outcome : Except ε α} {f : α → Except ε β}

theorem bind_eq_ok_iff {b : β} :
    (outcome >>= f) = .ok b ↔ ∃ a, outcome = .ok a ∧ f a = .ok b := by
  cases outcome with
  | ok a => simp [bind, Except.bind]
  | error e => simp [bind, Except.bind]

theorem bind_eq_error_iff {e : ε} :
    (outcome >>= f) = .error e ↔ outcome = .error e ∨ ∃ a, outcome = .ok a ∧ f a = .error e := by
  cases outcome with
  | ok a => simp [bind, Except.bind]
  | error e => simp [bind, Except.bind]

theorem map_eq_ok_iff {g : α → β} {b : β} :
    g <$> outcome = .ok b ↔ ∃ a, outcome = .ok a ∧ g a = b := by
  cases outcome <;> simp [Functor.map, Except.map]

theorem map_eq_error_iff {g : α → β} {e : ε} : g <$> outcome = .error e ↔ outcome = .error e := by
  cases outcome <;> simp [Functor.map, Except.map]

/-- Another error says nothing about the value. -/
theorem mapError_eq_ok_iff {ε' : Type} {g : ε → ε'} {a : α} :
    outcome.mapError g = .ok a ↔ outcome = .ok a := by
  cases outcome <;> simp [Except.mapError]

/-- The values of a list of steps are found one after another. -/
theorem mapM_eq_ok_iff {as : List α} {bs : List β} :
    as.mapM f = .ok bs ↔ List.Forall₂ (fun a b ↦ f a = .ok b) as bs := by
  induction as generalizing bs with
  | nil =>
    constructor
    · intro h
      cases h
      exact .nil
    · rintro ⟨⟩
      rfl
  | cons a as ih =>
    rw [List.mapM_cons]
    constructor
    · intro h
      obtain ⟨b, ha, hlater⟩ := bind_eq_ok_iff.1 h
      obtain ⟨rest, has, hbs⟩ := bind_eq_ok_iff.1 hlater
      cases hbs
      exact .cons ha (ih.1 has)
    · intro h
      cases h with
      | cons ha has => exact bind_eq_ok_iff.2 ⟨_, ha, bind_eq_ok_iff.2 ⟨_, ih.2 has, rfl⟩⟩

/-- A list of steps fails with the error of one of them. -/
theorem exists_mem_of_mapM_eq_error {as : List α} {e : ε} (h : as.mapM f = .error e) :
    ∃ a ∈ as, f a = .error e := by
  induction as with
  | nil => cases h
  | cons a as ih =>
    rw [List.mapM_cons] at h
    obtain ha | ⟨b, -, hlater⟩ := bind_eq_error_iff.1 h
    · exact ⟨a, List.mem_cons_self, ha⟩
    · obtain has | ⟨_, -, hpure⟩ := bind_eq_error_iff.1 hlater
      · obtain ⟨a', hmem, ha'⟩ := ih has
        exact ⟨a', List.mem_cons_of_mem a hmem, ha'⟩
      · cases hpure

/-- Only values are compared, since equality need not be decidable for errors. -/
theorem eq_ok_of_toOption {a : α} (h : outcome.toOption = some a) : outcome = .ok a := by
  cases outcome with
  | error e => cases h
  | ok a' => exact congrArg Except.ok (Option.some.inj h)

end EventCatalog
