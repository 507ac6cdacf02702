import RecordHold.Time.Instant
/-!
# Proofs.Calendar — every day has its date

The date of a day is a date of the calendar (`ofDays_valid`) and its day is that day (`toDays_ofDays`); the days on
which instants lie have years within the bounds (`date_year`).

A day is placed in the 400 years it belongs to by century, by four years, by year and by day of the year, all counted
from March: each of those is as long as the one before but for a leap day, which is the last day of the last year
(`Within400`).  With the day placed so, each division of the two conversions has a known result.
-/
namespace RecordHold
namespace Date

/-- **A day placed within 400 years**: the century, the four years, the year and the day, where only a leap year has
a day 365. -/
structure Within400 (doe c q y t : Nat) : Prop where
  eq      : doe = 36524 * c + 1461 * q + 365 * y + t
  century : c ≤ 3
  four    : q ≤ 24
  year    : y ≤ 3
  day     : t ≤ 365
  leap    : t = 365 → y = 3 ∧ (q = 24 → c = 3)

theorem exists_within400 (doe : Nat) (h : doe < 146097) : ∃ c q y t, Within400 doe c q y t := by
  obtain ⟨c, r, hc, hr, he, hl⟩ : ∃ c r, c ≤ 3 ∧ r ≤ 36524 ∧ doe = 36524 * c + r ∧ (r = 36524 → c = 3) := by
    by_cases hlast : doe = 146096
    · exact ⟨3, 36524, by omega, by omega, by omega, by omega⟩
    · exact ⟨doe / 36524, doe % 36524, by omega, by omega, by omega, by omega⟩
  obtain ⟨y, t, hy, ht, he', hl'⟩ : ∃ y t, y ≤ 3 ∧ t ≤ 365 ∧ r % 1461 = 365 * y + t ∧ (t = 365 → y = 3) := by
    by_cases hlast : r % 1461 = 1460
    · exact ⟨3, 365, by omega, by omega, by omega, by omega⟩
    · exact ⟨r % 1461 / 365, r % 1461 % 365, by omega, by omega, by omega, by omega⟩
  exact ⟨c, r / 1461, y, t, by omega, hc, by omega, hy, ht, fun h => ⟨hl' h, fun hq => hl (by omega)⟩⟩

variable {doe c q y t : Nat}

/-- The divisions that give the year: each takes away the leap days that the one before has counted too much. -/
theorem Within400.yearOf (h : Within400 doe c q y t) :
    (doe - doe / 1460 + doe / 36524 - doe / 146096) / 365 = 100 * c + 4 * q + y := by
  obtain ⟨rfl, hc, hq, hy, ht, hl⟩ := h
  have hfour : (36524 * c + 1461 * q + 365 * y + t) / 1460 = 25 * c + q + (24 * c + q + 365 * y + t) / 1460 := by omega
  by_cases hlast : q = 24 ∧ y = 3 ∧ t = 365
  · have hcentury : (36524 * c + 1461 * q + 365 * y + t) / 36524 = c + 1 := by omega
    have hera : (36524 * c + 1461 * q + 365 * y + t) / 146096 = 1 := by omega
    rw [hfour, hcentury, hera]
    omega
  · have hcentury : (36524 * c + 1461 * q + 365 * y + t) / 36524 = c := by omega
    have hera : (36524 * c + 1461 * q + 365 * y + t) / 146096 = 0 := by omega
    rw [hfour, hcentury, hera]
    omega

/-- The days before a year. -/
theorem daysBefore (c : Nat) (hq : q ≤ 24) (hy : y ≤ 3) :
    365 * (100 * c + 4 * q + y) + (100 * c + 4 * q + y) / 4 - (100 * c + 4 * q + y) / 100 =
      36524 * c + 1461 * q + 365 * y := by omega

/-- The date of a day of a year that begins in March. -/
def fromMarch (year : Int) (t : Nat) : Date :=
  let mp := (5 * t + 2) / 153
  let month := if mp < 10 then mp + 3 else mp - 9
  ⟨if month ≤ 2 then year + 1 else year, month, t - (153 * mp + 2) / 5 + 1⟩

theorem ofDays_eq {days : Int} (h : Within400 ((days + 719468) % 146097).toNat c q y t) :
    ofDays days = fromMarch ((days + 719468) / 146097 * 400 + (100 * c + 4 * q + y : Nat)) t := by
  have hyear := h.yearOf
  have hbefore := daysBefore c h.four h.year
  have he := h.eq
  unfold ofDays fromMarch
  simp only
  generalize ((days + 719468) % 146097).toNat = doe at hyear he
  have hday : doe - (36524 * c + 1461 * q + 365 * y) = t := by omega
  rw [hyear, hbefore, hday]

/-- The month counted from March. -/
theorem fromMarch_month (year : Int) (ht : t ≤ 365) :
    ((fromMarch year t).month + 9) % 12 = (5 * t + 2) / 153 := by
  unfold fromMarch
  simp only
  split <;> omega

theorem toDays_fromMarch {era : Int} {yoe : Nat} (hy : yoe < 400) (ht : t ≤ 365) :
    (fromMarch (era * 400 + yoe) t).toDays =
      era * 146097 + ((yoe * 365 + yoe / 4 - yoe / 100 + t : Nat) : Int) - 719468 := by
  have hmonth := fromMarch_month (era * 400 + yoe) ht
  have hyear : (if (fromMarch (era * 400 + yoe) t).month ≤ 2 then (fromMarch (era * 400 + yoe) t).year - 1
      else (fromMarch (era * 400 + yoe) t).year) = era * 400 + yoe := by
    unfold fromMarch
    simp only
    split <;> omega
  have hday : (153 * ((5 * t + 2) / 153) + 2) / 5 + (fromMarch (era * 400 + yoe) t).day - 1 = t := by
    unfold fromMarch
    simp only
    omega
  unfold toDays
  simp only [hmonth, hyear, hday]
  omega

/-- **The day of a day's date is that day.** -/
theorem toDays_ofDays (days : Int) : (ofDays days).toDays = days := by
  obtain ⟨c, q, y, t, h⟩ := exists_within400 ((days + 719468) % 146097).toNat (by omega)
  have hbefore := daysBefore c h.four h.year
  have he := h.eq
  have := h.century
  have := h.four
  have := h.year
  rw [ofDays_eq h, toDays_fromMarch (by omega) h.day]
  omega

theorem isLeapYear_iff (y : Int) : isLeapYear y = true ↔ y % 4 = 0 ∧ y % 100 ≠ 0 ∨ y % 400 = 0 := by
  unfold isLeapYear
  simp only [Bool.or_eq_true, Bool.and_eq_true, beq_iff_eq, bne_iff_ne]

theorem valid_fromMarch {year : Int} (ht : t ≤ 365) (hl : t = 365 → isLeapYear (year + 1) = true) :
    (fromMarch year t).Valid := by
  have hm : (5 * t + 2) / 153 ≤ 11 := by omega
  unfold Valid fromMarch daysInMonth
  simp only
  generalize hmp : (5 * t + 2) / 153 = mp at hm
  -- the last month is the one that depends on the year
  by_cases hfeb : mp = 11
  · subst hfeb
    simp only [Nat.reduceLT, if_false, Nat.reduceSub, Nat.le_refl, if_true]
    by_cases hlast : t = 365
    · rw [if_pos (hl hlast)]
      omega
    · split <;> omega
  · split
    · rw [if_neg (by omega)]
      split <;> omega
    · rw [if_neg (by omega)]
      split <;> omega

/-- **The date of a day is a date of the calendar.** -/
theorem ofDays_valid (days : Int) : (ofDays days).Valid := by
  obtain ⟨c, q, y, t, h⟩ := exists_within400 ((days + 719468) % 146097).toNat (by omega)
  rw [ofDays_eq h]
  refine valid_fromMarch h.day (fun ht => (isLeapYear_iff _).2 ?_)
  obtain ⟨hy, hq⟩ := h.leap ht
  have := h.century
  have := h.four
  by_cases hlast : q = 24
  · have := hq hlast
    exact .inr (by omega)
  · exact .inl ⟨by omega, by omega⟩

end Date

/-- **The date of an instant has a year within the bounds.** -/
theorem Instant.date_year (t : Instant) : firstYear ≤ t.date.year ∧ t.date.year ≤ lastYear := by
  obtain ⟨hfirst, hlast⟩ := t.in_range
  obtain ⟨c, q, y, d, h⟩ := Date.exists_within400 ((t.seconds / 86400 + 719468) % 146097).toNat (by omega)
  have ⟨he, hc, hq, hy, hd, _⟩ := h
  unfold firstSecond at hfirst
  unfold lastSecond at hlast
  rw [Instant.date, Date.ofDays_eq h]
  unfold Date.fromMarch firstYear lastYear
  simp only
  have hlo : -96465292 ≤ t.seconds / 86400 := by omega
  have hhi : t.seconds / 86400 ≤ 95026236 := by omega
  have hn : t.seconds / 86400 + 719468 =
      146097 * ((t.seconds / 86400 + 719468) / 146097) + ((36524 * c + 1461 * q + 365 * y + d : Nat) : Int) := by omega
  generalize t.seconds / 86400 = n at hlo hhi hn
  generalize (n + 719468) / 146097 = era at hn
  -- the first and the last year are in the middle of an era
  rcases (by omega : era ≤ -656 ∨ -655 ≤ era ∧ era ≤ 654 ∨ 655 ≤ era) with hera | hera | hera
  · obtain rfl : era = -656 := by omega
    split <;> split <;> omega
  · split <;> split <;> omega
  · obtain rfl : era = 655 := by omega
    split <;> split <;> omega

end RecordHold
