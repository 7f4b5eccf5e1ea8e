import EventCatalog.Proofs.Text.Ascii
import EventCatalog.Text.Base64

/-!
# Reading Base64 back

The filled form of a byte sequence reads back as that sequence.  Six bits survive the alphabet, and
the filling is told from the alphabet by its first character, so each of the three lengths of a last
group is read by its own rule.
-/

namespace EventCatalog.Text.Base64

theorem value?_char : ∀ n < 64, value? (char n) = some n := by
  decide

theorem char_ne_filling : ∀ n < 64, char n ≠ '=' := by
  decide

theorem lastOfTwo_bytes (a : UInt8) :
    lastOfTwo (a.toNat / 4) (a.toNat % 4 * 16) = some [a] := by
  have hzero : a.toNat % 4 * 16 % 16 = 0 := by omega
  have hbyte : a.toNat / 4 * 4 + a.toNat % 4 * 16 / 16 = a.toNat := by omega
  rw [lastOfTwo, if_pos hzero, hbyte, UInt8.ofNat_toNat]

theorem lastOfThree_bytes (a b : UInt8) :
    lastOfThree (a.toNat / 4) (a.toNat % 4 * 16 + b.toNat / 16) (b.toNat % 16 * 4) =
      some [a, b] := by
  have hb := b.toNat_lt
  have hzero : b.toNat % 16 * 4 % 4 = 0 := by omega
  have hfirst : a.toNat / 4 * 4 + (a.toNat % 4 * 16 + b.toNat / 16) / 16 = a.toNat := by omega
  have hsecond :
      (a.toNat % 4 * 16 + b.toNat / 16) % 16 * 16 + b.toNat % 16 * 4 / 4 = b.toNat := by omega
  rw [lastOfThree, if_pos hzero, hfirst, hsecond, UInt8.ofNat_toNat, UInt8.ofNat_toNat]

theorem fullGroup_bytes (a b c : UInt8) :
    fullGroup (a.toNat / 4) (a.toNat % 4 * 16 + b.toNat / 16)
      (b.toNat % 16 * 4 + c.toNat / 64) (c.toNat % 64) = [a, b, c] := by
  have hb := b.toNat_lt
  have hc := c.toNat_lt
  have hfirst : a.toNat / 4 * 4 + (a.toNat % 4 * 16 + b.toNat / 16) / 16 = a.toNat := by omega
  have hsecond : (a.toNat % 4 * 16 + b.toNat / 16) % 16 * 16 +
      (b.toNat % 16 * 4 + c.toNat / 64) / 4 = b.toNat := by omega
  have hthird : (b.toNat % 16 * 4 + c.toNat / 64) % 4 * 64 + c.toNat % 64 = c.toNat := by omega
  rw [fullGroup, hfirst, hsecond, hthird]
  simp only [UInt8.ofNat_toNat]

/-- The reader of filled text takes a full group off the front, whatever follows it. -/
theorem decodeFilled?_group {p q r s : Nat} (hp : p < 64) (hq : q < 64) (hr : r < 64) (hs : s < 64)
    (rest : List Char) :
    decodeFilled? (char p :: char q :: char r :: char s :: rest) =
      (decodeFilled? rest).map (fullGroup p q r s ++ ·) := by
  have hfilling := char_ne_filling s hs
  rw [decodeFilled?.eq_4 _ _ _ _ _ (fun _ h _ ↦ hfilling h) (fun h _ ↦ hfilling h)]
  simp only [value?_char p hp, value?_char q hq, value?_char r hr, value?_char s hs]
  cases decodeFilled? rest <;> rfl

/-- Reading undoes writing. -/
theorem decodeFilled?_encode (bytes : List UInt8) : decodeFilled? (encode bytes) = some bytes := by
  fun_induction encode bytes with
  | case1 => rfl
  | case2 a =>
    have ha := a.toNat_lt
    simp only [decodeFilled?, value?_char _ (show a.toNat / 4 < 64 by omega),
      value?_char _ (show a.toNat % 4 * 16 < 64 by omega)]
    exact lastOfTwo_bytes a
  | case3 a b =>
    have ha := a.toNat_lt
    have hb := b.toNat_lt
    have hlast : char (b.toNat % 16 * 4) ≠ '=' := char_ne_filling _ (by omega)
    rw [decodeFilled?.eq_3 _ _ _ (fun h ↦ hlast h)]
    simp only [value?_char _ (show a.toNat / 4 < 64 by omega),
      value?_char _ (show a.toNat % 4 * 16 + b.toNat / 16 < 64 by omega),
      value?_char _ (show b.toNat % 16 * 4 < 64 by omega)]
    exact lastOfThree_bytes a b
  | case4 a b c rest ih =>
    have ha := a.toNat_lt
    have hb := b.toNat_lt
    have hc := c.toNat_lt
    rw [decodeFilled?_group (by omega) (by omega) (by omega) (by omega), ih, fullGroup_bytes]
    rfl

theorem decode?_encode (bytes : List UInt8) : decode? (encode bytes) = some bytes := by
  rw [decode?, decodeFilled?_encode]
  rfl

theorem length_encode (bytes : List UInt8) :
    (encode bytes).length = (bytes.length + 2) / 3 * 4 := by
  fun_induction encode bytes with
  | case1 => rfl
  | case2 a => simp
  | case3 a b => simp
  | case4 a b c rest ih =>
    simp only [List.length_cons, ih]
    omega

theorem char_isAscii : ∀ n < 64, (char n).toNat < 128 := by
  decide

/-- What holds of the filling and of the alphabet holds of all characters of a written form. -/
theorem forall_mem_encode {p : Char → Prop} (hfilling : p '=') (hchar : ∀ n < 64, p (char n))
    (bytes : List UInt8) : ∀ c ∈ encode bytes, p c := by
  fun_induction encode bytes with
  | case1 => exact List.forall_mem_nil _
  | case2 a =>
    have ha := a.toNat_lt
    simp only [List.forall_mem_cons, List.not_mem_nil, false_implies, implies_true, and_true]
    exact ⟨hchar _ (by omega), hchar _ (by omega), hfilling, hfilling⟩
  | case3 a b =>
    have ha := a.toNat_lt
    have hb := b.toNat_lt
    simp only [List.forall_mem_cons, List.not_mem_nil, false_implies, implies_true, and_true]
    exact ⟨hchar _ (by omega), hchar _ (by omega), hchar _ (by omega), hfilling⟩
  | case4 a b c rest ih =>
    have ha := a.toNat_lt
    have hb := b.toNat_lt
    have hc := c.toNat_lt
    simp only [List.forall_mem_cons]
    exact ⟨hchar _ (by omega), hchar _ (by omega), hchar _ (by omega), hchar _ (by omega), ih⟩

theorem isAscii_encode (bytes : List UInt8) : IsAscii (encode bytes) :=
  forall_mem_encode (by decide) char_isAscii bytes

end EventCatalog.Text.Base64
