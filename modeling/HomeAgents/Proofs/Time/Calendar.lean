import HomeAgents.Time.Timestamp
import Mathlib.Algebra.Order.Group.Unbundled.Int
import Mathlib.Tactic.Ring

/-!
# The calendar

A day is counted in years that begin on the first of March. From the day of an era its year is found
by one division, and from the day of the year its month by another. So days are in order as their
dates are, and a date leads back to its day; with the time of day the same holds for moments.
-/

namespace HomeAgents.Time

section Era

variable {day century cycle year rest : Nat}

/-- Blocks of a size are taken off a number, only so many of them. -/
theorem exists_blocks (size last n : Nat) (hsize : 0 < size) :
    ∃ blocks rest, n = size * blocks + rest ∧ blocks ≤ last ∧ (rest < size ∨ blocks = last) := by
  rcases Nat.lt_or_ge (n / size) last with hless | hmore
  · exact ⟨n / size, n % size, (Nat.div_add_mod n size).symm, hless.le, .inl (Nat.mod_lt n hsize)⟩
  · have hfits : size * last ≤ n := by
      rw [Nat.mul_comm]
      exact (Nat.le_div_iff_mul_le hsize).mp hmore
    exact ⟨last, n - size * last, (Nat.add_sub_cancel' hfits).symm, le_rfl, .inr rfl⟩

/-- A day of an era of 400 years comes after so many centuries, cycles of four years, years and
days. The last year of a cycle has a leap day; in the last cycle of a century it has one only in the
last century. -/
structure IsCycle (day century cycle year rest : Nat) : Prop where
  count : day = 36524 * century + 1461 * cycle + 365 * year + rest
  century_le : century ≤ 3
  cycle_le : cycle ≤ 24
  year_le : year ≤ 3
  rest_le : rest ≤ 365
  leap : rest = 365 → year = 3 ∧ (cycle = 24 → century = 3)

theorem exists_cycle {day : Nat} (h : day < 146097) :
    ∃ century cycle year rest, IsCycle day century cycle year rest := by
  obtain ⟨century, days, rfl, hcentury, hdays⟩ := exists_blocks 36524 3 day (by decide)
  obtain ⟨cycle, days, rfl, hcycle, hdays'⟩ := exists_blocks 1461 24 days (by decide)
  obtain ⟨year, rest, rfl, hyear, hrest⟩ := exists_blocks 365 3 days (by decide)
  exact ⟨century, cycle, year, rest, by omega, hcentury, hcycle, hyear, by omega, by omega⟩

/-- A division of days by 1460 may count a leap day that is still to come, but only in the last year
of a cycle, where it makes no difference. -/
theorem IsCycle.year_eq (h : IsCycle day century cycle year rest) :
    (24 * century + cycle + (365 * year + rest)) / 1460 ≤ 365 * year + rest ∧
      (365 * year + rest - (24 * century + cycle + (365 * year + rest)) / 1460) / 365 = year := by
  obtain ⟨-, hcentury, hcycle, hyear, hrest, hleap⟩ := h
  rcases Nat.lt_or_ge (24 * century + cycle + (365 * year + rest)) 1460 with hless | hmore
  · rw [Nat.div_eq_of_lt hless]
    omega
  · have hextra : (24 * century + cycle + (365 * year + rest)) / 1460 = 1 := by omega
    rw [hextra]
    omega

theorem IsCycle.centuries (h : IsCycle day century cycle year rest) :
    day / 36524 = century + day / 146096 := by
  obtain ⟨hday, hcentury, hcycle, hyear, hrest, hleap⟩ := h
  rcases Nat.lt_or_ge (1461 * cycle + 365 * year + rest) 36524 with hless | hmore
  · have hfirst : day < 146096 := by omega
    rw [Nat.div_eq_of_lt hfirst, hday, Nat.add_assoc, Nat.add_assoc, Nat.mul_add_div (by decide),
      ← Nat.add_assoc, Nat.div_eq_of_lt hless]
  · have hlast : day = 146096 ∧ century = 3 := by omega
    rw [hlast.1, hlast.2]

/-- The year of the era is found by dividing what is left without the leap days. -/
theorem IsCycle.yearOfEra (h : IsCycle day century cycle year rest) :
    (day - day / 1460 + day / 36524 - day / 146096) / 365 = 100 * century + 4 * cycle + year := by
  have hsplit : day =
      1460 * (25 * century + cycle) + (24 * century + cycle + (365 * year + rest)) := by
    rw [h.count]
    ring
  obtain ⟨hle, hyear⟩ := h.year_eq
  have hleaps : day / 1460 =
      25 * century + cycle + (24 * century + cycle + (365 * year + rest)) / 1460 := by
    rw [hsplit, Nat.mul_add_div (by decide)]
  generalize (24 * century + cycle + (365 * year + rest)) / 1460 = extra at hle hyear hleaps
  have hsum : day - day / 1460 + day / 36524 - day / 146096 =
      365 * (100 * century + 4 * cycle) + (365 * year + rest - extra) := by
    rw [h.centuries, hleaps]
    omega
  rw [hsum, Nat.mul_add_div (by decide), hyear]

theorem IsCycle.leapYears (h : IsCycle day century cycle year rest) :
    (100 * century + 4 * cycle + year) / 4 = 25 * century + cycle ∧
      (100 * century + 4 * cycle + year) / 100 = century := by
  obtain ⟨-, -, hcycle, hyear, -, -⟩ := h
  omega

theorem IsCycle.dayOfYear (h : IsCycle day century cycle year rest) :
    day - (365 * (100 * century + 4 * cycle + year) + (100 * century + 4 * cycle + year) / 4 -
      (100 * century + 4 * cycle + year) / 100) = rest := by
  have hcount := h.count
  rw [h.leapYears.1, h.leapYears.2]
  omega

/-- The days before a year that begins in March. -/
def yearStart (base : Int) : Int :=
  365 * base + base / 4 - base / 100 + base / 400

theorem yearStart_add (base era : Int) :
    yearStart (base + era * 400) = yearStart base + era * 146097 := by
  unfold yearStart
  omega

theorem yearStart_lt_succ (base : Int) : yearStart base + 364 < yearStart (base + 1) := by
  unfold yearStart
  omega

theorem yearStart_mono {base base' : Int} (h : base < base') :
    yearStart (base + 1) ≤ yearStart base' := by
  unfold yearStart
  omega

theorem IsCycle.yearStart_eq (h : IsCycle day century cycle year rest) :
    yearStart (100 * century + 4 * cycle + year : Nat) =
      (36524 * century + 1461 * cycle + 365 * year : Nat) := by
  have h4 := h.leapYears.1
  have h100 := h.leapYears.2
  obtain ⟨-, hcentury, hcycle, hyear, -, -⟩ := h
  unfold yearStart
  omega

theorem IsCycle.lt_yearStart (h : IsCycle day century cycle year rest) :
    day < yearStart ((100 * century + 4 * cycle + year : Nat) + 1) := by
  have hstart := h.yearStart_eq
  obtain ⟨hday, hcentury, hcycle, hyear, hrest, hleap⟩ := h
  rcases Nat.lt_or_ge rest 365 with hless | hmore
  · have hnext := yearStart_lt_succ (100 * century + 4 * cycle + year : Nat)
    omega
  · obtain ⟨rfl, hlast⟩ := hleap (by omega)
    unfold yearStart
    omega

end Era

section Date

/-- The days of a year before its month; the months are counted from March. -/
def monthStart (slot : Nat) : Nat :=
  (153 * slot + 2) / 5

theorem monthStart_mono {slot slot' : Nat} (h : slot < slot') :
    monthStart (slot + 1) ≤ monthStart slot' := by
  unfold monthStart
  omega

/-- A number of days from the beginning of 1970 is made of a year that begins in March, a month in
it and a day of the month. -/
structure IsDay (days base : Int) (slot day : Nat) : Prop where
  slot_le : slot ≤ 11
  inMonth : monthStart slot + day < monthStart (slot + 1)
  inYear : yearStart base + (monthStart slot + day : Nat) < yearStart (base + 1)
  count : days + 719468 = yearStart base + (monthStart slot + day : Nat)

/-- The date of a day of such a year. -/
def marchDate (base : Int) (slot day : Nat) : Int × Nat × Nat :=
  (if slot < 10 then base else base + 1, if slot < 10 then slot + 3 else slot - 9, day + 1)

theorem exists_isDay (days : Int) :
    ∃ base slot day, IsDay days base slot day ∧ dateOf days = marchDate base slot day := by
  have hcount := Int.mul_fdiv_add_fmod (days + 719468) eraDays
  have hnonneg : 0 ≤ Int.fmod (days + 719468) eraDays := Int.fmod_nonneg_of_pos _ (by decide)
  have hlt : Int.fmod (days + 719468) eraDays < eraDays := Int.fmod_lt_of_pos _ (by decide)
  obtain ⟨day, hday⟩ := Int.eq_ofNat_of_zero_le hnonneg
  obtain ⟨era, hera⟩ : ∃ era, Int.fdiv (days + 719468) eraDays = era := ⟨_, rfl⟩
  rw [hday] at hcount hlt
  rw [hera, eraDays] at hcount
  obtain ⟨century, cycle, year, rest, hcycle⟩ := exists_cycle (Int.ofNat_lt.mp hlt)
  have hstart := hcycle.yearStart_eq
  have hnext := hcycle.lt_yearStart
  have hmonth : monthStart ((5 * rest + 2) / 153) ≤ rest ∧
      rest < monthStart ((5 * rest + 2) / 153 + 1) := by
    unfold monthStart
    omega
  have hrest := hcycle.rest_le
  have hday' := hcycle.count
  refine ⟨(100 * century + 4 * cycle + year : Nat) + era * 400, (5 * rest + 2) / 153,
    rest - monthStart ((5 * rest + 2) / 153), ⟨by omega, ?_, ?_, ?_⟩, ?_⟩
  · omega
  · rw [Nat.add_sub_cancel' hmonth.1, add_right_comm _ _ (1 : Int), yearStart_add, yearStart_add]
    omega
  · rw [Nat.add_sub_cancel' hmonth.1, yearStart_add]
    omega
  · simp only [dateOf, marchDate, hday, Int.toNat_natCast, hcycle.yearOfEra, hcycle.dayOfYear, hera]
    split
    · rw [if_neg (by omega)]
      rfl
    · rw [if_pos (by omega)]
      rfl

/-- Days are in order as their years, months and days of the month are. -/
theorem IsDay.lt {days days' base base' : Int} {slot slot' day day' : Nat}
    (h : IsDay days base slot day) (h' : IsDay days' base' slot' day') (hlt : days < days') :
    base < base' ∨ base = base' ∧ (slot < slot' ∨ slot = slot' ∧ day < day') := by
  have hcount := h.count
  have hcount' := h'.count
  rcases lt_trichotomy base base' with hbase | rfl | hbase
  · exact .inl hbase
  · refine .inr ⟨rfl, ?_⟩
    rcases lt_trichotomy slot slot' with hslot | rfl | hslot
    · exact .inl hslot
    · exact .inr ⟨rfl, by omega⟩
    · have hmonth := monthStart_mono hslot
      have hin := h'.inMonth
      omega
  · have hyear := yearStart_mono hbase
    have hin := h'.inYear
    omega

theorem daysTo_marchDate (base : Int) {slot : Nat} (hslot : slot ≤ 11) (day : Nat) :
    daysTo (marchDate base slot day).1 (marchDate base slot day).2.1 (marchDate base slot day).2.2 =
      yearStart base + (monthStart slot + day : Nat) - 719468 := by
  have hbase : (if (marchDate base slot day).2.1 ≤ 2 then (marchDate base slot day).1 - 1
      else (marchDate base slot day).1) = base := by
    simp only [marchDate]
    split <;> split <;> omega
  have hmonth : (if 2 < (marchDate base slot day).2.1
      then ((marchDate base slot day).2.1 : Int) - 3
      else ((marchDate base slot day).2.1 : Int) + 9) = slot := by
    simp only [marchDate]
    split <;> split <;> omega
  have hday : (marchDate base slot day).2.2 = day + 1 := rfl
  have hera := Int.mul_fdiv_add_fmod base 400
  have hnonneg : 0 ≤ Int.fmod base 400 := Int.fmod_nonneg_of_pos _ (by decide)
  have hlt : Int.fmod base 400 < 400 := Int.fmod_lt_of_pos _ (by decide)
  simp only [daysTo, hbase, hmonth, hday, eraDays]
  generalize Int.fdiv base 400 = era at hera
  generalize Int.fmod base 400 = year at hera hnonneg hlt
  have hstart : yearStart base = yearStart year + era * 146097 := by
    rw [← yearStart_add, ← hera]
    ring_nf
  rw [hstart, Int.fdiv_eq_ediv_of_nonneg _ (by decide), Int.fdiv_eq_ediv_of_nonneg _ (by decide),
    Int.fdiv_eq_ediv_of_nonneg _ (by decide)]
  unfold yearStart monthStart
  omega

/-- A date leads back to its day. -/
theorem daysTo_dateOf (days : Int) :
    daysTo (dateOf days).1 (dateOf days).2.1 (dateOf days).2.2 = days := by
  obtain ⟨base, slot, day, h, hdate⟩ := exists_isDay days
  have hcount := h.count
  rw [hdate, daysTo_marchDate base h.slot_le]
  omega

theorem dateOf_bounds (days : Int) : (dateOf days).2.1 ≤ 12 ∧ (dateOf days).2.2 ≤ 31 := by
  obtain ⟨base, slot, day, h, hdate⟩ := exists_isDay days
  have hslot := h.slot_le
  have hmonth := h.inMonth
  unfold monthStart at hmonth
  rw [hdate, marchDate]
  dsimp only
  constructor
  · split <;> omega
  · omega

/-- Days are in order as their dates are. -/
theorem dateOf_lt {days days' : Int} (h : days < days') :
    (dateOf days).1 < (dateOf days').1 ∨ (dateOf days).1 = (dateOf days').1 ∧
      ((dateOf days).2.1 < (dateOf days').2.1 ∨ (dateOf days).2.1 = (dateOf days').2.1 ∧
        (dateOf days).2.2 < (dateOf days').2.2) := by
  obtain ⟨base, slot, day, hday, hdate⟩ := exists_isDay days
  obtain ⟨base', slot', day', hday', hdate'⟩ := exists_isDay days'
  have hslot := hday.slot_le
  have hslot' := hday'.slot_le
  have hlt := hday.lt hday' h
  rw [hdate, hdate', marchDate, marchDate]
  dsimp only
  -- the months that are counted from March belong to the next year from January on
  split <;> split <;> omega

end Date

namespace Civil

/-- The second of the day that a time of day begins in. -/
def secondOfDay (moment : Int) : Nat :=
  (Int.fmod moment nanosPerDay).toNat / nanosPerSecond

theorem secondOfDay_lt (moment : Int) : secondOfDay moment < 86400 := by
  have hnonneg : 0 ≤ Int.fmod moment nanosPerDay := Int.fmod_nonneg_of_pos _ (by decide)
  have hlt : Int.fmod moment nanosPerDay < nanosPerDay := Int.fmod_lt_of_pos _ (by decide)
  simp only [secondOfDay, nanosPerDay, nanosPerSecond] at hnonneg hlt ⊢
  omega

theorem hour_ofNanos (moment : Int) : (ofNanos moment).hour = secondOfDay moment / 3600 := by
  simp only [ofNanos, secondOfDay, Nat.div_div_eq_div_mul, Nat.mul_comm]

theorem minute_ofNanos (moment : Int) :
    (ofNanos moment).minute = secondOfDay moment / 60 % 60 := by
  simp only [ofNanos, secondOfDay, Nat.div_div_eq_div_mul, Nat.mul_comm]

theorem second_ofNanos (moment : Int) : (ofNanos moment).second = secondOfDay moment % 60 := rfl

theorem nano_ofNanos_lt (moment : Int) : (ofNanos moment).nano < 1000000000 :=
  Nat.mod_lt _ (by decide)

/-- A moment is made of its day, the second of the day and the rest. -/
theorem eq_of_parts (moment : Int) :
    moment = Int.fdiv moment nanosPerDay * nanosPerDay +
      ((secondOfDay moment * nanosPerSecond + (ofNanos moment).nano : Nat) : Int) := by
  have hnonneg : 0 ≤ Int.fmod moment nanosPerDay := Int.fmod_nonneg_of_pos _ (by decide)
  have hparts := Int.mul_fdiv_add_fmod moment nanosPerDay
  have hrest := Nat.div_add_mod' (Int.fmod moment nanosPerDay).toNat nanosPerSecond
  have hnano : (ofNanos moment).nano = (Int.fmod moment nanosPerDay).toNat % nanosPerSecond := rfl
  rw [secondOfDay, hnano, hrest, Int.toNat_of_nonneg hnonneg, Int.mul_comm]
  exact hparts.symm

/-- A calendar time leads back to the moment. -/
theorem toNanos_ofNanos (moment : Int) : (ofNanos moment).toNanos = moment := by
  have hdays : daysTo (ofNanos moment).year (ofNanos moment).month (ofNanos moment).day =
      Int.fdiv moment nanosPerDay := daysTo_dateOf _
  have hclock : ((ofNanos moment).hour * 60 + (ofNanos moment).minute) * 60 +
      (ofNanos moment).second = secondOfDay moment := by
    rw [hour_ofNanos, minute_ofNanos, second_ofNanos]
    omega
  rw [toNanos, hdays, hclock]
  exact (eq_of_parts moment).symm

theorem isValid_ofNanos (moment : Int) : (ofNanos moment).isValid = true := by
  have hdays : daysTo (ofNanos moment).year (ofNanos moment).month (ofNanos moment).day =
      Int.fdiv moment nanosPerDay := daysTo_dateOf _
  have hlt := secondOfDay_lt moment
  rw [isValid, hdays, hour_ofNanos, minute_ofNanos, second_ofNanos, Bool.and_eq_true,
    decide_eq_true_iff, decide_eq_true_iff]
  exact ⟨rfl, by omega⟩

/-- The parts of a calendar time down to the second. -/
def fields (c : Civil) : List Nat :=
  [c.year.toNat, c.month, c.day, c.hour, c.minute, c.second]

theorem fields_lt_of_date {days days' : Int} (h : days < days') (hyear : 0 ≤ (dateOf days).1)
    (clock clock' : List Nat) :
    [(dateOf days).1.toNat, (dateOf days).2.1, (dateOf days).2.2] ++ clock <
      [(dateOf days').1.toNat, (dateOf days').2.1, (dateOf days').2.2] ++ clock' := by
  have hdate := dateOf_lt h
  simp only [List.cons_append, List.cons_lt_cons_iff]
  omega

theorem clock_lt {seconds seconds' : Nat} (h : seconds < seconds') :
    [seconds / 3600, seconds / 60 % 60, seconds % 60] <
      [seconds' / 3600, seconds' / 60 % 60, seconds' % 60] := by
  simp only [List.cons_lt_cons_iff]
  omega

theorem fields_ofNanos (moment : Int) :
    (ofNanos moment).fields =
      [(dateOf (Int.fdiv moment nanosPerDay)).1.toNat, (dateOf (Int.fdiv moment nanosPerDay)).2.1,
          (dateOf (Int.fdiv moment nanosPerDay)).2.2] ++
        [secondOfDay moment / 3600, secondOfDay moment / 60 % 60, secondOfDay moment % 60] := by
  rw [fields, hour_ofNanos, minute_ofNanos, second_ofNanos]
  rfl

/-- Moments are in order as their calendar times are. -/
theorem fields_lt {moment moment' : Int} (h : moment < moment')
    (hyear : 0 ≤ (ofNanos moment).year) :
    (ofNanos moment).fields < (ofNanos moment').fields ∨
      (ofNanos moment).fields = (ofNanos moment').fields ∧
        (ofNanos moment).nano < (ofNanos moment').nano := by
  have hparts := eq_of_parts moment
  have hparts' := eq_of_parts moment'
  have hsecond := secondOfDay_lt moment
  have hsecond' := secondOfDay_lt moment'
  have hnano := nano_ofNanos_lt moment
  have hnano' := nano_ofNanos_lt moment'
  have hnonneg : 0 ≤ (dateOf (Int.fdiv moment nanosPerDay)).1 := hyear
  rw [fields_ofNanos, fields_ofNanos]
  generalize secondOfDay moment = seconds at *
  generalize secondOfDay moment' = seconds' at *
  generalize Int.fdiv moment nanosPerDay = days at *
  generalize Int.fdiv moment' nanosPerDay = days' at *
  simp only [nanosPerDay, nanosPerSecond] at hparts hparts'
  rcases lt_trichotomy days days' with hdays | rfl | hdays
  · exact .inl (fields_lt_of_date hdays hnonneg _ _)
  · rcases lt_trichotomy seconds seconds' with hseconds | rfl | hseconds
    · exact .inl (List.append_left_lt (clock_lt hseconds))
    · exact .inr ⟨rfl, by omega⟩
    · omega
  · omega

end Civil

end HomeAgents.Time
