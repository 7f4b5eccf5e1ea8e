import EventCatalog.Uuid
import EventCatalog.Proofs.Text.Digit
import Mathlib.Data.List.Sort
import Mathlib.Algebra.Group.Nat.Defs

/-!
# Identifiers read back, and their order

An identifier reads back from its bytes and from its printed form.  The order of identifiers as
numbers is the order of their sixteen bytes, the most significant first, which is how a database
compares them.
-/

namespace EventCatalog.Uuid

theorem value_toNat_injective : Function.Injective fun id : Uuid ↦ id.value.toNat := by
  rintro ⟨a⟩ ⟨b⟩ h
  exact congrArg Uuid.mk (BitVec.eq_of_toNat_eq h)

/-- Identifiers are ordered as numbers. -/
instance : LinearOrder Uuid := LinearOrder.lift' (·.value.toNat) value_toNat_injective

theorem lt_iff_toNat (a b : Uuid) : a < b ↔ a.value.toNat < b.value.toNat := Iff.rfl

theorem millis_le_of_le {a b : Uuid} (h : a ≤ b) : a.millis ≤ b.millis := by
  rw [millis, millis, Nat.shiftRight_eq_div_pow, Nat.shiftRight_eq_div_pow]
  exact Nat.div_le_div_right h

/-- The lowest `count` bytes of a number, the most significant first. -/
def bytesOf (count n : Nat) : List UInt8 :=
  (List.range count).map fun i ↦ UInt8.ofNat (n >>> (8 * (count - 1 - i)))

theorem toBytes_eq_bytesOf (id : Uuid) : id.toBytes = bytesOf 16 id.value.toNat := rfl

@[simp]
theorem length_bytesOf (count n : Nat) : (bytesOf count n).length = count := by
  simp [bytesOf]

@[simp]
theorem length_toBytes (id : Uuid) : id.toBytes.length = 16 := by
  rw [toBytes_eq_bytesOf, length_bytesOf]

theorem bytesOf_succ (count n : Nat) :
    bytesOf (count + 1) n = bytesOf count (n / 256) ++ [UInt8.ofNat n] := by
  rw [bytesOf, List.range_succ, List.map_append, List.map_singleton]
  congr 1
  · rw [bytesOf, List.map_inj_left]
    intro i hi
    have hi := List.mem_range.1 hi
    have hshift : 8 * (count + 1 - 1 - i) = 8 + 8 * (count - 1 - i) := by omega
    rw [hshift, Nat.shiftRight_add, Nat.shiftRight_eq_div_pow n 8]
  · simp

theorem foldl_bytesOf (count n : Nat) (h : n < 256 ^ count) :
    (bytesOf count n).foldl (fun n b ↦ 256 * n + b.toNat) 0 = n := by
  induction count generalizing n with
  | zero =>
    have hzero : n = 0 := by simpa using h
    simp [bytesOf, hzero]
  | succ count ih =>
    have hfront : n / 256 < 256 ^ count := by
      rw [Nat.pow_succ] at h
      omega
    rw [bytesOf_succ, List.foldl_append, ih _ hfront, List.foldl_cons, List.foldl_nil,
      UInt8.toNat_ofNat']
    omega

theorem ofBytes?_toBytes (id : Uuid) : ofBytes? id.toBytes = some id := by
  have hvalue : id.value.toNat < 256 ^ 16 := id.value.isLt
  rw [ofBytes?, if_pos (length_toBytes id), toBytes_eq_bytesOf, foldl_bytesOf _ _ hvalue,
    BitVec.ofNat_toNat, BitVec.setWidth_eq]

/-- Sequences of one length are compared by all but the last item first. -/
theorem compare_concat {xs ys : List UInt8} (h : xs.length = ys.length) (x y : UInt8) :
    compare (xs ++ [x]) (ys ++ [y]) = (compare xs ys).then (compare x y) := by
  induction xs generalizing ys with
  | nil =>
    cases ys with
    | nil => simp [List.compare_cons_cons]
    | cons b ys => simp at h
  | cons a xs ih =>
    cases ys with
    | nil => simp at h
    | cons b ys =>
      have htail : xs.length = ys.length := by simpa using h
      simp only [List.cons_append, List.compare_cons_cons, ih htail, Ordering.then_assoc]

theorem compare_ofNat (m n : Nat) :
    compare (UInt8.ofNat m) (UInt8.ofNat n) = compare (m % 256) (n % 256) := by
  simp [compare, compareOfLessAndEq, UInt8.lt_iff_toNat_lt, ← UInt8.toNat_inj]

theorem compare_div_mod (m n : Nat) :
    (compare (m / 256) (n / 256)).then (compare (m % 256) (n % 256)) = compare m n := by
  rcases Nat.lt_trichotomy (m / 256) (n / 256) with h | h | h
  · rw [compare_lt_iff_lt.2 h, compare_lt_iff_lt.2 (show m < n by omega)]
    rfl
  · rw [compare_eq_iff_eq.2 h, Ordering.eq_then]
    rcases Nat.lt_trichotomy (m % 256) (n % 256) with h' | h' | h'
    · rw [compare_lt_iff_lt.2 h', compare_lt_iff_lt.2 (show m < n by omega)]
    · rw [compare_eq_iff_eq.2 h', compare_eq_iff_eq.2 (show m = n by omega)]
    · rw [compare_gt_iff_gt.2 h', compare_gt_iff_gt.2 (show m > n by omega)]
  · rw [compare_gt_iff_gt.2 h, compare_gt_iff_gt.2 (show m > n by omega)]
    rfl

theorem compare_bytesOf {count m n : Nat} (hm : m < 256 ^ count) (hn : n < 256 ^ count) :
    compare (bytesOf count m) (bytesOf count n) = compare m n := by
  induction count generalizing m n with
  | zero =>
    have hm : m = 0 := by simpa using hm
    have hn : n = 0 := by simpa using hn
    rw [hm, hn]
    rfl
  | succ count ih =>
    rw [Nat.pow_succ] at hm hn
    rw [bytesOf_succ, bytesOf_succ, compare_concat (by simp), ih (by omega) (by omega),
      compare_ofNat, compare_div_mod]

/-- The bytes of identifiers are ordered as the identifiers. -/
theorem compare_toBytes (a b : Uuid) : compare a.toBytes b.toBytes = compare a b := by
  have ha : a.value.toNat < 256 ^ 16 := a.value.isLt
  have hb : b.value.toNat < 256 ^ 16 := b.value.isLt
  rw [toBytes_eq_bytesOf, toBytes_eq_bytesOf, compare_bytesOf ha hb]
  rcases lt_trichotomy a b with h | rfl | h
  · rw [compare_lt_iff_lt.2 h, compare_lt_iff_lt.2 ((lt_iff_toNat a b).1 h)]
  · rw [compare_eq_iff_eq.2 rfl, compare_eq_iff_eq.2 rfl]
  · rw [compare_gt_iff_gt.2 h, compare_gt_iff_gt.2 ((lt_iff_toNat b a).1 h)]

/-- The values of printed digits write the number again. -/
theorem mapM_hexDigit?_digits {count n : Nat} (h : n < 16 ^ count) :
    ∃ values, (Text.digits 16 count n).mapM Text.hexDigit? = some values ∧
      values.foldl (fun n d ↦ 16 * n + d) 0 = n := by
  induction count generalizing n with
  | zero =>
    have hzero : n = 0 := by simpa using h
    exact ⟨[], by simp [Text.digits], by simp [hzero]⟩
  | succ count ih =>
    rw [Nat.pow_succ] at h
    obtain ⟨values, hvalues, hfront⟩ := ih (show n / 16 < 16 ^ count by omega)
    have hlast := Text.hexDigit?_digitChar (n % 16) (by omega)
    refine ⟨values ++ [n % 16], ?_, ?_⟩
    · simp [Text.digits, List.mapM_append, hvalues, hlast]
    · rw [List.foldl_append, hfront, List.foldl_cons, List.foldl_nil]
      omega

@[simp]
theorem length_hex (id : Uuid) : id.hex.length = 32 := by
  rw [hex, Text.length_digits]

theorem ofHex?_hex (id : Uuid) : ofHex? id.hex = some id := by
  have hvalue : id.value.toNat < 16 ^ 32 := id.value.isLt
  obtain ⟨values, hvalues, hnumber⟩ := mapM_hexDigit?_digits hvalue
  rw [← hex] at hvalues
  simp only [ofHex?, length_hex, if_true, hvalues, Option.bind_eq_bind, Option.bind_some, hnumber,
    Option.pure_def, BitVec.ofNat_toNat, BitVec.setWidth_eq]

/-- The printed form is made of hexadecimal digits and hyphens. -/
theorem mem_toChars {id : Uuid} {c : Char} (h : c ∈ id.toChars) :
    c = '-' ∨ ∃ d < 16, c = Text.digitChar d := by
  have hhex : ∀ c ∈ id.hex, ∃ d < 16, c = Text.digitChar d :=
    fun c hc ↦ Text.mem_digits (by decide) hc
  simp only [toChars, hyphenate, List.mem_append, List.mem_cons, or_assoc] at h
  rcases h with h | rfl | h | rfl | h | rfl | h | rfl | h
  · exact .inr (hhex c (List.mem_of_mem_take h))
  · exact .inl rfl
  · exact .inr (hhex c (List.mem_of_mem_drop (List.mem_of_mem_take h)))
  · exact .inl rfl
  · exact .inr (hhex c (List.mem_of_mem_drop (List.mem_of_mem_take h)))
  · exact .inl rfl
  · exact .inr (hhex c (List.mem_of_mem_drop (List.mem_of_mem_take h)))
  · exact .inl rfl
  · exact .inr (hhex c (List.mem_of_mem_drop h))

@[simp]
theorem length_toChars (id : Uuid) : id.toChars.length = 36 := by
  simp [toChars, hyphenate]

/-- Without its hyphens the printed form is the run of digits. -/
theorem filter_hyphenate {ds : List Char} (h : ∀ c ∈ ds, c ≠ '-') :
    (hyphenate ds).filter (· ≠ '-') = ds := by
  have hkeep : ∀ l : List Char, (∀ c ∈ l, c ∈ ds) → l.filter (· ≠ '-') = l := by
    intro l hl
    rw [List.filter_eq_self]
    intro c hc
    exact decide_eq_true (h c (hl c hc))
  have hdrop : ∀ n, ∀ c ∈ ds.drop n, c ∈ ds := fun n c hc ↦ List.mem_of_mem_drop hc
  have htake : ∀ m n, ∀ c ∈ (ds.drop n).take m, c ∈ ds :=
    fun m n c hc ↦ hdrop n c (List.mem_of_mem_take hc)
  have hjoin : ds.take 8 ++ ((ds.drop 8).take 4 ++ ((ds.drop 12).take 4 ++
      ((ds.drop 16).take 4 ++ ds.drop 20))) = ds := by
    rw [← List.drop_drop (i := 4) (j := 16), List.take_append_drop,
      ← List.drop_drop (i := 4) (j := 12), List.take_append_drop,
      ← List.drop_drop (i := 4) (j := 8), List.take_append_drop, List.take_append_drop]
  simp only [hyphenate, List.append_assoc, List.cons_append, List.filter_append]
  rw [hkeep _ (fun c hc ↦ List.mem_of_mem_take hc)]
  simp only [List.filter_cons, List.filter_append, hkeep _ (htake 4 8), hkeep _ (htake 4 12),
    hkeep _ (htake 4 16), hkeep _ (hdrop 20), hjoin, ne_eq, not_true_eq_false, decide_false,
    Bool.false_eq_true, if_false]

theorem unhyphenate?_toChars (id : Uuid) : unhyphenate? id.toChars = some id.hex := by
  have hdigits : ∀ c ∈ id.hex, c ≠ '-' := by
    intro c hc
    obtain ⟨d, hd, rfl⟩ := Text.mem_digits (by decide) hc
    exact Text.digitChar_ne_hyphen d hd
  rw [unhyphenate?, toChars, filter_hyphenate hdigits]
  simp

/-- The printed form stands neither in braces nor after the scheme. -/
theorem unwrap_toChars (id : Uuid) : unwrap id.toChars = id.toChars := by
  obtain ⟨d, hd, tail, htail⟩ :=
    Text.exists_digits_eq_cons (show 0 < 16 by decide) 31 id.value.toNat
  have hbrace : ∀ d < 16, Text.digitChar d ≠ '{' := by decide
  have hscheme : ∀ d < 16, (Text.digitChar d).toLower ≠ 'u' := by decide
  have hhead : ∃ rest, id.toChars = Text.digitChar d :: rest := by
    simp [toChars, hex, hyphenate, htail]
  obtain ⟨rest, hrest⟩ := hhead
  rw [hrest]
  unfold unwrap
  split
  next heq => simp_all
  next =>
    rw [if_neg]
    simp [hscheme d hd]

/-- The printed form of an identifier reads back. -/
theorem ofChars?_toChars (id : Uuid) : ofChars? id.toChars = some id := by
  have hbare : ofHex? id.toChars = none := by simp [ofHex?]
  rw [ofChars?, hbare, unwrap_toChars, unhyphenate?_toChars, Option.bind_some, ofHex?_hex]
  rfl

theorem ofString?_toString (id : Uuid) : ofString? (toString id) = some id := by
  change ofChars? (String.ofList id.toChars).toList = some id
  rw [String.toList_ofList, ofChars?_toChars]

end EventCatalog.Uuid
