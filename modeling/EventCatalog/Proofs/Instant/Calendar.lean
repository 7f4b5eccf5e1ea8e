import EventCatalog.Instant.Calendar

/-!
# Days and dates

Every day number has a valid date, and the date leads back to the number.  A day is placed in its
era by centuries, groups of four years, years and days.  The last day of a year counted from March
is the leap day, so a 366th day exists only in the last year of a group, and not in the last group
of a century unless the century ends the era.
-/

namespace EventCatalog.Date

theorem isLeapYear_iff (year : Int) :
    isLeapYear year = true ↔ year % 4 = 0 ∧ (year % 100 ≠ 0 ∨ year % 400 = 0) := by
  simp [isLeapYear]

/-- The year of an era in which one of its days lies. -/
def yearOfEra (day : Int) : Int := (day - day / 1460 + day / 36524 - day / 146096) / 365

/-- The place of a day in its era. -/
structure EraDay where
  century : Int
  group : Int
  year : Int
  day : Int
  century_mem : 0 ≤ century ∧ century ≤ 3
  group_mem : 0 ≤ group ∧ group ≤ 24
  year_mem : 0 ≤ year ∧ year ≤ 3
  day_mem : 0 ≤ day ∧ day ≤ 365
  leap_day : day = 365 → year = 3 ∧ (group = 24 → century = 3)

namespace EraDay

/-- The number of the day in its era. -/
def number (p : EraDay) : Int := 36524 * p.century + 1461 * p.group + 365 * p.year + p.day

/-- The year of the day in its era. -/
def years (p : EraDay) : Int := 100 * p.century + 4 * p.group + p.year

theorem exists_number {n : Int} (h0 : 0 ≤ n) (h1 : n < 146097) : ∃ p : EraDay, p.number = n := by
  obtain ⟨c, hc⟩ : ∃ c, c = min (n / 36524) 3 := ⟨_, rfl⟩
  obtain ⟨r, hr⟩ : ∃ r, r = n - 36524 * c := ⟨_, rfl⟩
  obtain ⟨s, hs⟩ : ∃ s, s = r - 1461 * (r / 1461) := ⟨_, rfl⟩
  refine ⟨⟨c, r / 1461, min (s / 365) 3, s - 365 * min (s / 365) 3, ?_, ?_, ?_, ?_, ?_⟩, ?_⟩
  case refine_6 => simp only [number]; omega
  all_goals omega

theorem number_mem (p : EraDay) : 0 ≤ p.number ∧ p.number < 146097 := by
  obtain ⟨c, g, y, d, hc, hg, hy, hd, hleap⟩ := p
  simp only [number]
  omega

theorem years_mem (p : EraDay) : 0 ≤ p.years ∧ p.years < 400 := by
  obtain ⟨c, g, y, d, hc, hg, hy, hd, hleap⟩ := p
  simp only [years]
  omega

/-- The days before the year of the day. -/
theorem days_before (p : EraDay) :
    365 * p.years + p.years / 4 - p.years / 100 = p.number - p.day := by
  obtain ⟨c, g, y, d, hc, hg, hy, hd, hleap⟩ := p
  simp only [years, number]
  omega

theorem yearOfEra_number (p : EraDay) : yearOfEra p.number = p.years := by
  obtain ⟨c, g, y, d, hc, hg, hy, hd, hleap⟩ := p
  obtain ⟨n, hn⟩ : ∃ n, n = 36524 * c + 1461 * g + 365 * y + d := ⟨_, rfl⟩
  simp only [yearOfEra, years, number, ← hn]
  have hcentury : n / 36524 = c ∨ n = 146096 := by omega
  have hera : n / 146096 = 0 ∨ n = 146096 := by omega
  have hgroup : n / 1460 = 25 * c + g + if 1460 ≤ 24 * c + g + 365 * y + d then 1 else 0 := by
    split <;> omega
  rcases hcentury with hcentury | rfl
  · rcases hera with hera | rfl
    · rw [hcentury, hera, hgroup]
      split <;> omega
    · omega
  · omega

/-- The year after one with a leap day at its end, counted from March, has the leap day in
February. -/
theorem isLeapYear_of_leap_day (p : EraDay) (era : Int) (h : p.day = 365) :
    isLeapYear (p.years + era * 400 + 1) = true := by
  obtain ⟨c, g, y, d, hc, hg, hy, hd, hleap⟩ := p
  obtain ⟨rfl, hlast⟩ := hleap h
  rw [isLeapYear_iff]
  simp only [years]
  omega

end EraDay

/-- The date of a day of a year counted from March. -/
def ofMarch (year day : Int) : Date :=
  let monthFromMarch := (5 * day + 2) / 153
  let month := if monthFromMarch < 10 then monthFromMarch + 3 else monthFromMarch - 9
  ⟨if month ≤ 2 then year + 1 else year, month.toNat, (day - (153 * monthFromMarch + 2) / 5 + 1).toNat⟩

theorem ofDayNumber_eq_ofMarch (p : EraDay) (era n : Int)
    (h : n + epochShift = era * daysPerEra + p.number) :
    ofDayNumber n = ofMarch (p.years + era * 400) p.day := by
  have hp := p.number_mem
  have hshift : (n + epochShift) % daysPerEra = p.number := by
    rw [h, daysPerEra]
    omega
  have hera : (n + epochShift) / daysPerEra = era := by
    rw [h, daysPerEra]
    omega
  have hyear := p.yearOfEra_number
  have hday := p.days_before
  unfold yearOfEra at hyear
  unfold ofDayNumber ofMarch
  simp only [hshift, hera, hyear, hday, Int.sub_sub_self]

/-- The twelve months, counted from March, that a day of the year can lie in. -/
theorem monthFromMarch_mem {day : Int} (h0 : 0 ≤ day) (h1 : day ≤ 365) :
    0 ≤ (5 * day + 2) / 153 ∧ (5 * day + 2) / 153 ≤ 11 := by
  omega

theorem toDayNumber_ofMarch {year day : Int} (h0 : 0 ≤ day) (h1 : day ≤ 365) :
    (ofMarch year day).toDayNumber =
      year / 400 * daysPerEra +
        (year % 400 * 365 + year % 400 / 4 - year % 400 / 100 + day) - epochShift := by
  have hmonth := monthFromMarch_mem h0 h1
  obtain ⟨m, hm⟩ : ∃ m, m = (5 * day + 2) / 153 := ⟨_, rfl⟩
  have hnat : (((if m < 10 then m + 3 else m - 9).toNat : Int) + 9) % 12 = m := by
    split <;> omega
  have hyear : (if (if m < 10 then m + 3 else m - 9).toNat ≤ 2 then
      (if (if m < 10 then m + 3 else m - 9) ≤ 2 then year + 1 else year) - 1
      else if (if m < 10 then m + 3 else m - 9) ≤ 2 then year + 1 else year) = year := by
    split <;> split <;> omega
  have hday : ((day - (153 * m + 2) / 5 + 1).toNat : Int) = day - (153 * m + 2) / 5 + 1 := by
    omega
  unfold toDayNumber ofMarch
  simp only [← hm, hyear, hnat, hday]
  omega

theorem isValid_ofMarch {year day : Int} (h0 : 0 ≤ day) (h1 : day ≤ 365)
    (hleap : day = 365 → isLeapYear (year + 1) = true) : (ofMarch year day).IsValid := by
  have hmonth := monthFromMarch_mem h0 h1
  obtain ⟨m, hm⟩ : ∃ m, m = (5 * day + 2) / 153 := ⟨_, rfl⟩
  have hfebruary : m = 11 → 28 < day - (153 * m + 2) / 5 + 1 → isLeapYear (year + 1) = true := by
    intro _ _
    exact hleap (by omega)
  unfold IsValid ofMarch daysInMonth
  simp only [← hm]
  obtain rfl | rfl | rfl | rfl | rfl | rfl | rfl | rfl | rfl | rfl | rfl | rfl :
      m = 0 ∨ m = 1 ∨ m = 2 ∨ m = 3 ∨ m = 4 ∨ m = 5 ∨ m = 6 ∨ m = 7 ∨ m = 8 ∨ m = 9 ∨ m = 10 ∨
        m = 11 := by omega
  all_goals simp
  case inr.inr.inr.inr.inr.inr.inr.inr.inr.inr.inr => split <;> simp_all <;> omega
  all_goals omega

/-- The place in its era of the day of a number. -/
theorem exists_place (n : Int) :
    ∃ (p : EraDay) (era : Int), n + epochShift = era * daysPerEra + p.number := by
  have h0 : 0 ≤ (n + epochShift) % daysPerEra := Int.emod_nonneg _ (by decide)
  have h1 : (n + epochShift) % daysPerEra < 146097 := Int.emod_lt_of_pos _ (by decide)
  obtain ⟨p, hp⟩ := EraDay.exists_number h0 h1
  refine ⟨p, (n + epochShift) / daysPerEra, ?_⟩
  rw [hp, Int.mul_comm]
  exact (Int.mul_ediv_add_emod _ _).symm

theorem isValid_ofDayNumber (n : Int) : (ofDayNumber n).IsValid := by
  obtain ⟨p, era, h⟩ := exists_place n
  rw [ofDayNumber_eq_ofMarch p era n h]
  exact isValid_ofMarch p.day_mem.1 p.day_mem.2 (p.isLeapYear_of_leap_day era)

/-- The date of a day number leads back to it. -/
theorem toDayNumber_ofDayNumber (n : Int) : (ofDayNumber n).toDayNumber = n := by
  obtain ⟨p, era, h⟩ := exists_place n
  have hyears := p.years_mem
  have hmod : (p.years + era * 400) % 400 = p.years := by omega
  have hdiv : (p.years + era * 400) / 400 = era := by omega
  have hday := p.days_before
  rw [ofDayNumber_eq_ofMarch p era n h, toDayNumber_ofMarch p.day_mem.1 p.day_mem.2, hmod, hdiv]
  omega

end EventCatalog.Date
