import EventCatalog.Instant.Printer
import EventCatalog.Instant.Reader
import EventCatalog.Proofs.Instant.Calendar
import EventCatalog.Proofs.Instant.Millis
import EventCatalog.Proofs.Text.Digit
import Mathlib.Algebra.Group.Nat.Defs

/-!
# Instants read back

The printed form of an instant reads back as the same instant: every year that can be written, every
number of fraction digits, and leap seconds at the end of a minute.  A leap second within a minute
is printed like the second after it, and reads back as that one.  Texts have no other form for it:
what is read from any text has its leap second at the end of a minute.

Each reader is shown to take its own part off the front of the text and to leave what follows; a run
of digits ends at a character that is no digit, or when the limit of the reader is reached.
-/

namespace EventCatalog.Instant

open Text (digits digitChar trimStart)

/-- What follows a number: nothing, or a character that is no digit. -/
def EndsNumber (rest : List Char) : Prop := ∀ c ∈ rest.head?, Text.decimalDigit? c = none

theorem spanNumber_of_endsNumber {rest : List Char} (h : EndsNumber rest) (limit value : Nat) :
    spanNumber limit value rest = (value, rest) := by
  cases limit with
  | zero => rfl
  | succ limit =>
    cases rest with
    | nil => rfl
    | cons c rest =>
      have hc : Text.decimalDigit? c = none := h c rfl
      simp [spanNumber, hc]

/-- A reader with room for more digits goes on behind the printed ones. -/
theorem spanNumber_digits {count n : Nat} (hn : n < 10 ^ count) (limit value : Nat)
    (rest : List Char) :
    spanNumber (limit + count) value (digits 10 count n ++ rest) =
      spanNumber limit (value * 10 ^ count + n) rest := by
  induction count generalizing limit n rest with
  | zero =>
    have hzero : n = 0 := by simpa using hn
    simp [digits, hzero]
  | succ count ih =>
    have hfront : n / 10 < 10 ^ count := by
      rw [Nat.pow_succ] at hn
      omega
    have hlast := Text.decimalDigit?_digitChar (n % 10) (by omega)
    have hvalue : 10 * (value * 10 ^ count + n / 10) + n % 10 = value * 10 ^ (count + 1) + n := by
      rw [Nat.pow_succ]
      have hmul : value * (10 ^ count * 10) = 10 * (value * 10 ^ count) := by
        rw [← Nat.mul_assoc, Nat.mul_comm]
      omega
    calc spanNumber (limit + (count + 1)) value (digits 10 (count + 1) n ++ rest)
        = spanNumber (limit + 1 + count) value
            (digits 10 count (n / 10) ++ (digitChar (n % 10) :: rest)) := by
          rw [digits, List.append_assoc, Nat.add_right_comm, Nat.add_assoc]
          rfl
      _ = spanNumber (limit + 1) (value * 10 ^ count + n / 10) (digitChar (n % 10) :: rest) :=
          ih hfront (limit + 1) _
      _ = spanNumber limit (value * 10 ^ (count + 1) + n) rest := by
          simp [spanNumber, hlast, hvalue]

/-- A printed number is read when the reader has reached its limit or the number ends. -/
theorem readNumber?_digits {count n limit : Nat} (hcount : 0 < count) (hn : n < 10 ^ count)
    (hlimit : count ≤ limit) {rest : List Char} (hrest : limit = count ∨ EndsNumber rest) :
    readNumber? limit (digits 10 count n ++ rest) = some (n, rest) := by
  have hspan : spanNumber limit 0 (digits 10 count n ++ rest) = (n, rest) := by
    have h := spanNumber_digits hn (limit - count) 0 rest
    rw [Nat.sub_add_cancel hlimit, Nat.zero_mul, Nat.zero_add] at h
    rw [h]
    rcases hrest with rfl | hrest
    · rw [Nat.sub_self]
      rfl
    · exact spanNumber_of_endsNumber hrest _ _
  simp only [readNumber?, hspan, List.length_append, Text.length_digits]
  rw [if_pos (by omega)]

/-- The two digits of a field, of which none is left for what follows. -/
theorem readField?_digits {low high n : Nat} (hn : n < 100) (hlow : low ≤ n) (hhigh : n ≤ high)
    (rest : List Char) :
    readField? 2 low high (digits 10 2 n ++ rest) = some (n, rest) := by
  have hread : readNumber? 2 (digits 10 2 n ++ rest) = some (n, rest) :=
    readNumber?_digits (by decide) hn (Nat.le_refl 2) (.inl rfl)
  rw [readField?, Text.trimStart_digits (by decide) (by decide), hread]
  simp [hlow, hhigh]

theorem readDivider?_cons {divider : Char} (h : Text.isBlank divider = false) (rest : List Char) :
    readDivider? divider (divider :: rest) = some rest := by
  simp [readDivider?, trimStart, h]

theorem endsNumber_cons {c : Char} (h : Text.decimalDigit? c = none) (rest : List Char) :
    EndsNumber (c :: rest) := by
  intro d hd
  rw [List.head?_cons, Option.mem_some] at hd
  exact hd ▸ h

theorem readYear?_minus (cs : List Char) :
    readYear? ('-' :: cs) = (readNumber? cs.length cs).map fun (n, rest) ↦ (-(n : Int), rest) := by
  have hblank : Text.isBlank '-' = false := by decide
  simp [readYear?, trimStart, hblank]

theorem readYear?_plus (cs : List Char) :
    readYear? ('+' :: cs) = (readNumber? cs.length cs).map fun (n, rest) ↦ ((n : Int), rest) := by
  have hblank : Text.isBlank '+' = false := by decide
  simp [readYear?, trimStart, hblank]

/-- A year is read up to the hyphen behind it. -/
theorem readYear?_yearChars (year : Int) (rest : List Char) :
    readYear? (yearChars year ++ '-' :: rest) = some (year, '-' :: rest) := by
  have hhyphen : EndsNumber ('-' :: rest) := endsNumber_cons (by decide) rest
  unfold yearChars
  split
  next hplain =>
    have hn : year.toNat < 10 ^ 4 := by omega
    have hwidth : max 4 (Nat.toDigits 10 year.toNat).length = 4 :=
      Nat.max_eq_left ((Nat.length_toDigits_le_iff (by decide) (by decide)).2 hn)
    have hread := readNumber?_digits (by decide) hn (Nat.le_refl 4) (.inr hhyphen)
    obtain ⟨d, hd, tail, htail⟩ :=
      Text.exists_digits_eq_cons (show 0 < 10 by decide) 3 year.toNat
    have hminus := Text.digitChar_ne_hyphen d (by omega)
    have hplus := Text.digitChar_ne_plus d (by omega)
    rw [Text.padded, hwidth, readYear?, Text.trimStart_digits (by decide) (by decide)]
    rw [htail, List.cons_append] at hread ⊢
    split
    · next heq => simp_all
    · next heq => simp_all
    · rw [hread]
      simp
      omega
  next hsigned =>
    have hn := Text.lt_pow_of_padded 4 year.natAbs
    have hread : readNumber? (Text.padded 4 year.natAbs ++ '-' :: rest).length
        (Text.padded 4 year.natAbs ++ '-' :: rest) = some (year.natAbs, '-' :: rest) :=
      readNumber?_digits (by omega) hn (by simp [Text.padded]) (.inr hhyphen)
    split
    next hnegative =>
      have hyear : -((year.natAbs : Nat) : Int) = year := by omega
      rw [List.cons_append, readYear?_minus, hread, Option.map_some]
      simp only [hyear]
    next hpositive =>
      have hyear : ((year.natAbs : Nat) : Int) = year := by omega
      rw [List.cons_append, readYear?_plus, hread, Option.map_some]
      simp only [hyear]

theorem readDate?_dateChars {d : Date} (hd : d.IsValid) (rest : List Char) :
    readDate? (dateChars d ++ rest) = some (d, rest) := by
  obtain ⟨hmonth, hmonth', hday, hday'⟩ := hd
  have hlength : Date.daysInMonth d.year d.month ≤ 31 := by
    unfold Date.daysInMonth
    split <;> split <;> simp
  have hhyphen : Text.isBlank '-' = false := by decide
  simp only [readDate?, dateChars, List.append_assoc, List.cons_append, readYear?_yearChars,
    readDivider?_cons hhyphen, readField?_digits (show d.month < 100 by omega) hmonth hmonth',
    readField?_digits (show d.day < 100 by omega) hday (show d.day ≤ 31 by omega),
    Option.bind_eq_bind,
    Option.bind_some, Option.pure_def]

/-- The digits of a fraction are filled up with zeros to nine. -/
theorem readFraction?_digits {count n : Nat} (hcount : 0 < count) (hnine : count ≤ 9)
    (hn : n < 10 ^ count) :
    readFraction? ('.' :: digits 10 count n ++ ['Z']) =
      some (n * Nat.pow 10 (9 - count), ['Z']) := by
  have hend : EndsNumber ['Z'] := endsNumber_cons (by decide) []
  have hread := readNumber?_digits hcount hn hnine (.inr hend)
  have hdrop : ['Z'].dropWhile Char.isDigit = ['Z'] := by decide
  simp only [readFraction?, List.cons_append, hread, Option.bind_eq_bind, Option.bind_some,
    Option.pure_def, List.length_append, Text.length_digits, hdrop, Nat.add_sub_cancel]

theorem readFraction?_fractionChars {nanos : Nat} (h : nanos < 1000000000) :
    readFraction? (fractionChars nanos ++ ['Z']) = some (nanos, ['Z']) := by
  unfold fractionChars
  split
  next hzero => rw [hzero, List.nil_append, readFraction?]; simp
  next hzero =>
    split
    next hmillis =>
      rw [readFraction?_digits (by decide) (by decide) (by omega)]
      have hvalue : nanos / 1000000 * Nat.pow 10 (9 - 3) = nanos := by
        change nanos / 1000000 * 1000000 = nanos
        omega
      rw [hvalue]
    next hmillis =>
      split
      next hmicros =>
        rw [readFraction?_digits (by decide) (by decide) (by omega)]
        have hvalue : nanos / 1000 * Nat.pow 10 (9 - 6) = nanos := by
          change nanos / 1000 * 1000 = nanos
          omega
        rw [hvalue]
      next hmicros =>
        rw [readFraction?_digits (by decide) (by decide) (by omega)]
        have hvalue : nanos * Nat.pow 10 (9 - 9) = nanos := Nat.mul_one nanos
        rw [hvalue]

theorem readTime?_clockChars {seconds nanos : Nat} (leap : Bool) (hseconds : seconds < 86400)
    (hnanos : nanos < 1000000000) :
    readTime? (clockChars seconds leap ++ (fractionChars nanos ++ ['Z'])) =
      some (⟨seconds / 3600, seconds / 60 % 60, seconds % 60 + (if leap then 1 else 0), nanos⟩,
        ['Z']) := by
  have hcolon : Text.isBlank ':' = false := by decide
  have hsecond : seconds % 60 + (if leap then 1 else 0) ≤ 60 := by split <;> omega
  simp only [readTime?, clockChars, List.append_assoc, List.cons_append, readDivider?_cons hcolon,
    readField?_digits (show seconds / 3600 < 100 by omega) (Nat.zero_le _)
      (show seconds / 3600 ≤ 23 by omega),
    readField?_digits (show seconds / 60 % 60 < 100 by omega) (Nat.zero_le _)
      (show seconds / 60 % 60 ≤ 59 by omega),
    readField?_digits (show seconds % 60 + (if leap then 1 else 0) < 100 by omega) (Nat.zero_le _)
      hsecond,
    readFraction?_fractionChars hnanos, Option.bind_eq_bind, Option.bind_some, Option.pure_def]

/-- Whether an instant lies outside a leap second or in one that ends its minute. -/
def LeapsAtMinuteEnd (t : Instant) : Prop := t.InLeapSecond → t.seconds % 60 = 59

instance (t : Instant) : Decidable t.LeapsAtMinuteEnd :=
  inferInstanceAs (Decidable (t.InLeapSecond → t.seconds % 60 = 59))

theorem bounds_of_not_leapsAtMinuteEnd {t : Instant} (h : ¬t.LeapsAtMinuteEnd) :
    t.nanos - 1000000000 < 2000000000 ∧ -8334601228800 ≤ t.seconds + 1 ∧
      t.seconds + 1 ≤ 8210266876799 := by
  have hwithin : 1000000000 ≤ t.nanos ∧ t.seconds % 60 ≠ 59 := Classical.not_imp.1 h
  have hnanos := t.nanos_lt
  have hlower := t.lower
  have hupper := t.upper
  omega

/-- The instant that the printed form of an instant stands for.  A leap second within a minute is
printed like the second after it. -/
def asPrinted (t : Instant) : Instant :=
  if h : t.LeapsAtMinuteEnd then t
  else
    have hbounds := bounds_of_not_leapsAtMinuteEnd h
    ⟨t.seconds + 1, t.nanos - 1000000000, hbounds.1, hbounds.2.1, hbounds.2.2⟩

theorem asPrinted_of_leapsAtMinuteEnd {t : Instant} (h : t.LeapsAtMinuteEnd) : t.asPrinted = t :=
  dif_pos h

theorem seconds_asPrinted {t : Instant} (h : ¬t.LeapsAtMinuteEnd) :
    t.asPrinted.seconds = t.seconds + 1 := by
  rw [asPrinted, dif_neg h]

theorem nanos_asPrinted {t : Instant} (h : ¬t.LeapsAtMinuteEnd) :
    t.asPrinted.nanos = t.nanos - 1000000000 := by
  rw [asPrinted, dif_neg h]

theorem asPrinted_eq_self_iff {t : Instant} : t.asPrinted = t ↔ t.LeapsAtMinuteEnd := by
  refine ⟨fun heq ↦ ?_, asPrinted_of_leapsAtMinuteEnd⟩
  by_contra h
  have hseconds := seconds_asPrinted h
  rw [heq] at hseconds
  omega

section Local

variable {date : Date} {hour minute second nanos : Nat} {t : Instant}

/-- A local time in UTC is the instant of its seconds and nanoseconds. -/
theorem ofLocal?_of_lt (hdate : date.IsValid) (hsecond : second < 60)
    (hseconds : t.seconds =
      date.toDayNumber * 86400 + ((hour * 3600 + minute * 60 + second : Nat) : Int))
    (hnanos : t.nanos = nanos) : ofLocal? date ⟨hour, minute, second, nanos⟩ 0 = some t := by
  have hne : second ≠ 60 := Nat.ne_of_lt hsecond
  simp only [ofLocal?, hdate, hne, if_true, if_false, ← hseconds, ← hnanos, make?_self,
    Option.bind_some, Int.sub_zero]

/-- The second 60 is the leap second of the second 59. -/
theorem ofLocal?_sixty (hdate : date.IsValid)
    (hseconds : t.seconds =
      date.toDayNumber * 86400 + ((hour * 3600 + minute * 60 + 59 : Nat) : Int))
    (hnanos : t.nanos = 1000000000 + nanos) :
    ofLocal? date ⟨hour, minute, 60, nanos⟩ 0 = some t := by
  simp only [ofLocal?, hdate, if_true, ← hseconds, ← hnanos, make?_self, Option.bind_some,
    Int.sub_zero]

end Local

/-- The local time in UTC that an instant is printed with. -/
theorem ofLocal?_asPrinted (t : Instant) :
    ofLocal? (Date.ofDayNumber (t.seconds / 86400))
      ⟨(t.seconds % 86400).toNat / 3600, (t.seconds % 86400).toNat / 60 % 60,
        (t.seconds % 86400).toNat % 60 + (if decide (1000000000 ≤ t.nanos) then 1 else 0),
        t.nanos % 1000000000⟩ 0 = some t.asPrinted := by
  have hdate := Date.isValid_ofDayNumber (t.seconds / 86400)
  have hday := Date.toDayNumber_ofDayNumber (t.seconds / 86400)
  have hnanos := t.nanos_lt
  obtain ⟨s, hs⟩ : ∃ s, s = (t.seconds % 86400).toNat := ⟨_, rfl⟩
  have hseconds : t.seconds = t.seconds / 86400 * 86400 + (s : Int) := by omega
  rw [← hs]
  by_cases hleap : t.InLeapSecond
  · rw [decide_eq_true (show 1000000000 ≤ t.nanos from hleap), if_pos rfl]
    by_cases hend : t.seconds % 60 = 59
    · have hlast : s % 60 + 1 = 60 := by omega
      rw [asPrinted_of_leapsAtMinuteEnd fun _ ↦ hend, hlast]
      rw [InLeapSecond] at hleap
      apply ofLocal?_sixty hdate
      · rw [hday]
        omega
      · omega
    · have hwithin : ¬t.LeapsAtMinuteEnd := fun h ↦ hend (h hleap)
      rw [InLeapSecond] at hleap
      apply ofLocal?_of_lt hdate
      · omega
      · rw [seconds_asPrinted hwithin, hday]
        omega
      · rw [nanos_asPrinted hwithin]
        omega
  · rw [asPrinted_of_leapsAtMinuteEnd fun h ↦ absurd h hleap,
      decide_eq_false (show ¬1000000000 ≤ t.nanos from hleap)]
    rw [InLeapSecond] at hleap
    apply ofLocal?_of_lt hdate
    · rw [if_neg Bool.false_ne_true]
      omega
    · rw [hday, if_neg Bool.false_ne_true]
      omega
    · omega

/-- The printed form of an instant reads back as the instant that it stands for. -/
theorem ofChars?_toChars (t : Instant) : ofChars? t.toChars = some t.asPrinted := by
  have hdate := Date.isValid_ofDayNumber (t.seconds / 86400)
  have hoffset : readOffset? ['Z'] = some (0, []) := by decide
  have hend : trimStart [] = [] := rfl
  simp only [ofChars?, toChars, List.append_assoc, List.cons_append, readDate?_dateChars hdate,
    readTime?_clockChars (decide (1000000000 ≤ t.nanos))
      (show (t.seconds % 86400).toNat < 86400 by omega)
      (show t.nanos % 1000000000 < 1000000000 by omega),
    hoffset, hend, Option.bind_eq_bind, Option.bind_some, true_or, if_true, ofLocal?_asPrinted]

theorem ofString?_toString (t : Instant) : ofString? (toString t) = some t.asPrinted := by
  change ofChars? (String.ofList t.toChars).toList = some t.asPrinted
  rw [String.toList_ofList, ofChars?_toChars]

section Minutes

variable {cs rest : List Char} {limit value n : Nat} {offset : Int} {date : Date} {time : TimeOfDay}
  {t : Instant}

/-- As many digits as are read bound the number that they make. -/
theorem exists_lt_of_spanNumber (h : spanNumber limit value cs = (n, rest)) :
    ∃ count ≤ limit, cs.length = rest.length + count ∧ n < (value + 1) * 10 ^ count := by
  induction limit generalizing value cs with
  | zero =>
    cases h
    exact ⟨0, Nat.le_refl 0, rfl, by omega⟩
  | succ limit ih =>
    cases cs with
    | nil =>
      cases h
      exact ⟨0, Nat.zero_le _, rfl, by omega⟩
    | cons c cs =>
      rw [spanNumber] at h
      split at h
      next digit hdigit =>
        obtain ⟨count, hcount, hlength, hlt⟩ := ih h
        have hten : digit < 10 := (Text.decimalDigit?_eq_some_iff.1 hdigit).1
        refine ⟨count + 1, Nat.succ_le_succ hcount, congrArg (· + 1) hlength, ?_⟩
        calc n < (10 * value + digit + 1) * 10 ^ count := hlt
          _ ≤ ((value + 1) * 10) * 10 ^ count := Nat.mul_le_mul_right _ (by omega)
          _ = (value + 1) * 10 ^ (count + 1) := by
            rw [Nat.pow_succ, Nat.mul_assoc, Nat.mul_comm 10]
      next =>
        cases h
        exact ⟨0, Nat.zero_le _, rfl, by omega⟩

/-- A fraction is less than a second. -/
theorem lt_of_readFraction? (h : readFraction? cs = some (n, rest)) : n < 1000000000 := by
  unfold readFraction? at h
  split at h
  next cs =>
    obtain ⟨⟨m, behind⟩, hnumber, h⟩ := Option.bind_eq_some_iff.1 h
    cases h
    rw [readNumber?] at hnumber
    split at hnumber
    next =>
      obtain ⟨count, hcount, hlength, hlt⟩ := exists_lt_of_spanNumber (Option.some.inj hnumber)
      have htaken : cs.length - behind.length = count := by omega
      rw [htaken]
      calc m * 10 ^ (9 - count) < 10 ^ count * 10 ^ (9 - count) :=
            Nat.mul_lt_mul_of_pos_right (by omega) (Nat.pow_pos (by decide))
        _ = 10 ^ 9 := by rw [← Nat.pow_add, Nat.add_sub_cancel' hcount]
    next => cases hnumber
  next =>
    cases h
    decide

theorem nanos_lt_of_readTime? (h : readTime? cs = some (time, rest)) :
    time.nanos < 1000000000 := by
  obtain ⟨⟨hour, _⟩, -, h⟩ := Option.bind_eq_some_iff.1 h
  obtain ⟨_, -, h⟩ := Option.bind_eq_some_iff.1 h
  obtain ⟨⟨minute, _⟩, -, h⟩ := Option.bind_eq_some_iff.1 h
  obtain ⟨_, -, h⟩ := Option.bind_eq_some_iff.1 h
  obtain ⟨⟨second, _⟩, -, h⟩ := Option.bind_eq_some_iff.1 h
  obtain ⟨⟨nanos, _⟩, hfraction, h⟩ := Option.bind_eq_some_iff.1 h
  cases h
  exact lt_of_readFraction? hfraction

/-- Offsets are whole minutes. -/
theorem emod_of_readOffsetSeconds? (h : readOffsetSeconds? cs = some (offset, rest)) :
    offset % 60 = 0 := by
  obtain ⟨⟨hours, _⟩, -, h⟩ := Option.bind_eq_some_iff.1 h
  obtain ⟨⟨minutes, _⟩, -, h⟩ := Option.bind_eq_some_iff.1 h
  cases h
  omega

theorem emod_of_readOffset? (h : readOffset? cs = some (offset, rest)) : offset % 60 = 0 := by
  have hnegated : ∀ cs, (readOffsetSeconds? cs).map (fun read ↦ (-read.1, read.2)) =
      some (offset, rest) → offset % 60 = 0 := by
    intro cs h
    obtain ⟨⟨n, _⟩, hread, hn⟩ := Option.map_eq_some_iff.1 h
    cases hn
    have hminutes := emod_of_readOffsetSeconds? hread
    omega
  rw [readOffset?] at h
  dsimp only at h
  split at h
  · cases h
    rfl
  · split at h
    · cases h
      rfl
    · cases h
      rfl
    · exact emod_of_readOffsetSeconds? h
    · exact hnegated _ h
    · exact hnegated _ h
    · cases h

theorem eq_of_make? {seconds : Int} {nanos : Nat} (h : make? seconds nanos = some t) :
    t.seconds = seconds ∧ t.nanos = nanos := by
  rw [make?] at h
  split at h
  · cases h
    exact ⟨rfl, rfl⟩
  · cases h

/-- Texts know leap seconds at the end of a minute only, as offsets are whole minutes. -/
theorem leapsAtMinuteEnd_of_ofLocal? (hnanos : time.nanos < 1000000000) (hoffset : offset % 60 = 0)
    (h : ofLocal? date time offset = some t) : t.LeapsAtMinuteEnd := by
  rw [ofLocal?] at h
  split at h
  · obtain ⟨_, -, hmake⟩ := Option.bind_eq_some_iff.1 h
    obtain ⟨hseconds, hsame⟩ := eq_of_make? hmake
    intro hleap
    rw [InLeapSecond, hsame] at hleap
    split at hleap
    next hsixty =>
      rw [hseconds]
      simp only [hsixty, if_true]
      omega
    next => omega
  · cases h

/-- What is read from a text is printed and read back as it is. -/
theorem leapsAtMinuteEnd_of_ofChars? (h : ofChars? cs = some t) : t.LeapsAtMinuteEnd := by
  obtain ⟨⟨date, rest⟩, -, h⟩ := Option.bind_eq_some_iff.1 h
  dsimp only at h
  split at h
  next c rest =>
    split at h
    · obtain ⟨_, -, h⟩ := Option.bind_eq_some_iff.1 h
      obtain ⟨⟨time, _⟩, htime, h⟩ := Option.bind_eq_some_iff.1 h
      obtain ⟨⟨offset, _⟩, hoffset, h⟩ := Option.bind_eq_some_iff.1 h
      dsimp only at h
      split at h
      · exact leapsAtMinuteEnd_of_ofLocal? (nanos_lt_of_readTime? htime)
          (emod_of_readOffset? hoffset) h
      · cases h
    · cases h
  next => cases h

end Minutes

end EventCatalog.Instant
