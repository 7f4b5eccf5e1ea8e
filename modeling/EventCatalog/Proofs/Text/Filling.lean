import EventCatalog.Proofs.Text.Base64
import Mathlib.Data.List.DropRight

/-!
# The filling of Base64

A text over the alphabet reads the same with its filling and without any.  These are the only two
forms that are read: filling that is left out in part, put in too often or put in between is
refused, and so are bits at the end that belong to no byte.
-/

namespace EventCatalog.Text.Base64

/-- The text without the filling at its end. -/
def unfilled (cs : List Char) : List Char := cs.rdropWhile (· = '=')

/-- The text with as much filling as makes its last group one of four characters. -/
def filled (cs : List Char) : List Char := cs ++ List.replicate ((4 - cs.length % 4) % 4) '='

/-- The bits of the last character that belong to no byte, as a number.  A character has six bits, a
byte eight. -/
def spareBits (cs : List Char) : Nat :=
  (cs.getLast?.bind value?).getD 0 % Nat.pow 2 (6 * cs.length % 8)

variable {cs : List Char} {bytes : List UInt8}

theorem unfilled_of_notMem (h : '=' ∉ cs) : unfilled cs = cs := by
  rw [unfilled, List.rdropWhile_eq_self_iff]
  intro hne hlast
  have hfilling : cs.getLast hne = '=' := of_decide_eq_true hlast
  exact h (hfilling ▸ List.getLast_mem hne)

theorem unfilled_append_replicate (h : '=' ∉ cs) (n : Nat) :
    unfilled (cs ++ List.replicate n '=') = cs := by
  induction n with
  | zero => rw [List.replicate_zero, List.append_nil, unfilled_of_notMem h]
  | succ n ih =>
    rw [List.replicate_succ', ← List.append_assoc, unfilled, List.rdropWhile_concat_pos _ _ _ rfl]
    exact ih

theorem unfilled_filled (h : '=' ∉ cs) : unfilled (filled cs) = cs := unfilled_append_replicate h _

theorem length_filled (cs : List Char) : (filled cs).length = (cs.length + 3) / 4 * 4 := by
  rw [filled, List.length_append, List.length_replicate]
  omega

/-- Filling concerns the last group alone. -/
theorem filled_group (p q r s : Char) (rest : List Char) :
    filled (p :: q :: r :: s :: rest) = p :: q :: r :: s :: filled rest := by
  have hlength : (p :: q :: r :: s :: rest).length % 4 = rest.length % 4 := by
    simp only [List.length_cons]
    omega
  rw [filled, filled, hlength]
  rfl

theorem filled_of_notMem (h : '=' ∉ filled cs) : filled cs = cs := by
  have hnone : (4 - cs.length % 4) % 4 = 0 := by
    by_contra hsome
    exact h (List.mem_append_right _ (List.mem_replicate.2 ⟨hsome, rfl⟩))
  rw [filled, hnone, List.replicate_zero, List.append_nil]

theorem value?_filling : value? '=' = none := by
  decide

theorem ne_filling_of_value? {c : Char} {n : Nat} (h : value? c = some n) : c ≠ '=' := by
  rintro rfl
  cases value?_filling.symm.trans h

theorem isAscii_of_value? {c : Char} {n : Nat} (h : value? c = some n) : c.toNat < 128 := by
  by_contra hlarge
  have hbeyond : ∀ d : Char, d.toNat < 128 → ¬c ≤ d := by
    intro d hd hle
    have hnat : c.toNat ≤ d.toNat := hle
    omega
  have hne : ∀ d : Char, d.toNat < 128 → c ≠ d := fun d hd heq ↦ hlarge (heq ▸ hd)
  simp [value?, hbeyond _ (show 'Z'.toNat < 128 by decide),
    hbeyond _ (show 'z'.toNat < 128 by decide), hbeyond _ (show '9'.toNat < 128 by decide),
    hne _ (show '-'.toNat < 128 by decide), hne _ (show '_'.toNat < 128 by decide)] at h

/-- Whether all characters of a text have a value, which is to say that they are in the alphabet. -/
def HasValues (cs : List Char) : Prop := ∀ c ∈ cs, ∃ n, value? c = some n

theorem HasValues.notMem (h : HasValues cs) : '=' ∉ cs := by
  intro hmem
  obtain ⟨n, hn⟩ := h '=' hmem
  exact ne_filling_of_value? hn rfl

theorem HasValues.isAscii (h : HasValues cs) : IsAscii cs := by
  intro c hc
  obtain ⟨n, hn⟩ := h c hc
  exact isAscii_of_value? hn

/-- A group of four characters is read when each of them has a value and the later ones are read. -/
theorem exists_values_of_group {p q r s : Char} {later : Option (List UInt8)}
    (h : (do
      let group := fullGroup (← value? p) (← value? q) (← value? r) (← value? s)
      return group ++ (← later)) = some bytes) :
    HasValues [p, q, r, s] ∧ ∃ rest, later = some rest := by
  obtain ⟨a, ha, h⟩ := Option.bind_eq_some_iff.1 h
  obtain ⟨b, hb, h⟩ := Option.bind_eq_some_iff.1 h
  obtain ⟨c, hc, h⟩ := Option.bind_eq_some_iff.1 h
  obtain ⟨d, hd, h⟩ := Option.bind_eq_some_iff.1 h
  obtain ⟨rest, hrest, -⟩ := Option.bind_eq_some_iff.1 h
  refine ⟨?_, rest, hrest⟩
  simp only [HasValues, List.forall_mem_cons]
  exact ⟨⟨a, ha⟩, ⟨b, hb⟩, ⟨c, hc⟩, ⟨d, hd⟩, List.forall_mem_nil _⟩

/-- What is read as text without filling is a text over the alphabet. -/
theorem hasValues_of_decodeBare? (h : decodeBare? cs = some bytes) : HasValues cs := by
  fun_induction decodeBare? cs generalizing bytes with
  | case1 => exact List.forall_mem_nil _
  | case2 c => cases h
  | case3 p q =>
    obtain ⟨a, ha, h⟩ := Option.bind_eq_some_iff.1 h
    obtain ⟨b, hb, -⟩ := Option.bind_eq_some_iff.1 h
    simp only [HasValues, List.forall_mem_cons]
    exact ⟨⟨a, ha⟩, ⟨b, hb⟩, List.forall_mem_nil _⟩
  | case4 p q r =>
    obtain ⟨a, ha, h⟩ := Option.bind_eq_some_iff.1 h
    obtain ⟨b, hb, h⟩ := Option.bind_eq_some_iff.1 h
    obtain ⟨c, hc, -⟩ := Option.bind_eq_some_iff.1 h
    simp only [HasValues, List.forall_mem_cons]
    exact ⟨⟨a, ha⟩, ⟨b, hb⟩, ⟨c, hc⟩, List.forall_mem_nil _⟩
  | case5 p q r s rest ih =>
    obtain ⟨hgroup, later, hlater⟩ := exists_values_of_group h
    exact List.forall_mem_append.2 ⟨hgroup, ih hlater⟩

theorem spareBits_group (p q r s : Char) (rest : List Char) :
    spareBits (p :: q :: r :: s :: rest) = spareBits rest := by
  cases rest with
  | nil => simp [spareBits, Nat.mod_one]
  | cons t rest =>
    have hbits : 6 * (p :: q :: r :: s :: t :: rest).length % 8 = 6 * (t :: rest).length % 8 := by
      simp only [List.length_cons]
      omega
    have hlast : (p :: q :: r :: s :: t :: rest).getLast? = (t :: rest).getLast? := by
      simp only [List.getLast?_cons_cons]
    rw [spareBits, spareBits, hbits, hlast]

/-- What is read as text without filling has no bits left at its end. -/
theorem spareBits_of_decodeBare? (h : decodeBare? cs = some bytes) : spareBits cs = 0 := by
  fun_induction decodeBare? cs generalizing bytes with
  | case1 => rfl
  | case2 c => cases h
  | case3 p q =>
    obtain ⟨a, -, h⟩ := Option.bind_eq_some_iff.1 h
    obtain ⟨b, hb, h⟩ := Option.bind_eq_some_iff.1 h
    rw [lastOfTwo, Option.ite_none_right_eq_some] at h
    simpa [spareBits, hb] using h.1
  | case4 p q r =>
    obtain ⟨a, -, h⟩ := Option.bind_eq_some_iff.1 h
    obtain ⟨b, -, h⟩ := Option.bind_eq_some_iff.1 h
    obtain ⟨c, hc, h⟩ := Option.bind_eq_some_iff.1 h
    rw [lastOfThree, Option.ite_none_right_eq_some] at h
    simpa [spareBits, hc] using h.1
  | case5 p q r s rest ih =>
    obtain ⟨-, later, hlater⟩ := exists_values_of_group h
    rw [spareBits_group, ih hlater]

/-- The reader of filled text reads what the other one reads without the filling. -/
theorem decodeFilled?_filled (h : '=' ∉ cs) : decodeFilled? (filled cs) = decodeBare? cs := by
  fun_induction decodeBare? cs with
  | case1 => rfl
  | case2 c =>
    -- A single character has no byte, and the first filling stands in the place of the second one.
    have hfilled : decodeFilled? (filled [c]) = (value? c).bind fun _ ↦ none := rfl
    rw [hfilled, Option.bind_fun_none]
  | case3 p q => rfl
  | case4 p q r =>
    have hlast : r ≠ '=' := fun hr ↦ h (by simp [hr])
    have hfilled : filled [p, q, r] = [p, q, r, '='] := rfl
    rw [hfilled, decodeFilled?.eq_3 _ _ _ hlast]
  | case5 p q r s rest ih =>
    have hlast : s ≠ '=' := fun hs ↦ h (by simp [hs])
    have hrest : '=' ∉ rest := fun hmem ↦ h (by simp [hmem])
    rw [filled_group, decodeFilled?.eq_4 _ _ _ _ _ (fun _ hs _ ↦ hlast hs) (fun hs _ ↦ hlast hs),
      ih hrest]

/-- What is read as filled text is a text without filling, filled up. -/
theorem exists_filled_of_decodeFilled? (h : decodeFilled? cs = some bytes) :
    ∃ body, '=' ∉ body ∧ cs = filled body := by
  fun_induction decodeFilled? cs generalizing bytes with
  | case1 => exact ⟨[], List.not_mem_nil, rfl⟩
  | case2 p q =>
    have hread : decodeBare? [p, q] = some bytes := h
    exact ⟨[p, q], (hasValues_of_decodeBare? hread).notMem, rfl⟩
  | case3 p q r hr =>
    have hread : decodeBare? [p, q, r] = some bytes := h
    exact ⟨[p, q, r], (hasValues_of_decodeBare? hread).notMem, rfl⟩
  | case4 p q r s rest hfour hthree ih =>
    obtain ⟨hgroup, later, hlater⟩ := exists_values_of_group h
    obtain ⟨body, hbody, rfl⟩ := ih hlater
    have hnone : '=' ∉ [p, q, r, s] ++ body := by
      rw [List.mem_append, not_or]
      exact ⟨hgroup.notMem, hbody⟩
    exact ⟨_, hnone, (filled_group p q r s body).symm⟩
  | case5 => cases h

/-- Of a text without filling the two readers together read what the second one reads. -/
theorem decode?_of_notMem (h : '=' ∉ cs) : decode? cs = decodeBare? cs := by
  unfold decode?
  cases hread : decodeFilled? cs with
  | none => rfl
  | some bytes =>
    obtain ⟨body, hbody, hcs⟩ := exists_filled_of_decodeFilled? hread
    have hsame : cs = body := hcs.trans (filled_of_notMem (hcs ▸ h))
    calc (some bytes <|> decodeBare? cs)
        = decodeFilled? (filled body) := by rw [← hcs, hread]; rfl
      _ = decodeBare? cs := by rw [decodeFilled?_filled hbody, hsame]

theorem decode?_filled (h : '=' ∉ cs) : decode? (filled cs) = decodeBare? cs := by
  by_cases hfilling : '=' ∈ filled cs
  · have hbare : decodeBare? (filled cs) = none := by
      rw [Option.eq_none_iff_forall_ne_some]
      intro bytes hread
      exact (hasValues_of_decodeBare? hread).notMem hfilling
    rw [decode?, decodeFilled?_filled h, hbare, Option.orElse_eq_orElse, Option.orElse_eq_or,
      Option.or_none]
  · rw [filled_of_notMem hfilling, decode?_of_notMem h]

theorem exists_body_of_decode? (h : decode? cs = some bytes) :
    ∃ body, '=' ∉ body ∧ (cs = body ∨ cs = filled body) := by
  cases hread : decodeFilled? cs with
  | none =>
    rw [decode?, hread] at h
    exact ⟨cs, (hasValues_of_decodeBare? h).notMem, .inl rfl⟩
  | some found =>
    obtain ⟨body, hbody, hcs⟩ := exists_filled_of_decodeFilled? hread
    exact ⟨body, hbody, .inr hcs⟩

/-- A text is read exactly if it can be read without the filling at its end, and has none there or
as much as makes its last group a whole one. -/
theorem decode?_eq_some_iff :
    decode? cs = some bytes ↔
      decodeBare? (unfilled cs) = some bytes ∧ (cs = unfilled cs ∨ cs = filled (unfilled cs)) := by
  constructor
  · intro h
    obtain ⟨body, hbody, rfl | rfl⟩ := exists_body_of_decode? h
    · rw [unfilled_of_notMem hbody, ← decode?_of_notMem hbody]
      exact ⟨h, .inl rfl⟩
    · rw [unfilled_filled hbody, ← decode?_filled hbody]
      exact ⟨h, .inr rfl⟩
  · rintro ⟨hread, hcs⟩
    have hbody := (hasValues_of_decodeBare? hread).notMem
    rcases hcs with hcs | hcs
    · rw [hcs, decode?_of_notMem hbody, hread]
    · rw [hcs, decode?_filled hbody, hread]

end EventCatalog.Text.Base64
