import Mathlib.Algebra.Order.Group.Nat
import Mathlib.Tactic.SplitIfs
import ClipCadence.Moment

/-!
The calendar. A day number and the date read off it determine each other, so a moment is the one
with its date and its time of day, and the day after a date is the next one in the month, the first
of the next month or the first of January.

A year, a month and a day are each found by counting what lies before them. `date` divides by the
lengths of whole cycles of years; what is left over is the day in the year, and it lies within the
year because a cycle that is a day longer than its parts ends with a leap year.

Main statements: `date_spec`, `date_succ` and `Moment.ofParts_parts`.
-/

namespace ClipCadence

namespace Calendar

/-- A date of the calendar, carried on beyond the year 9999. -/
structure IsDate (year month day : Nat) : Prop where
  year_pos : 1 ≤ year
  month_pos : 1 ≤ month
  month_le : month ≤ 12
  day_pos : 1 ≤ day
  day_le : day ≤ monthLength year month

/-! ### The days of a year -/

/-- The days of some months. -/
def total (lengths : List Nat) : Nat := lengths.foldr (· + ·) 0

/-- The month and the day that some days lead to are those that they lie before. -/
theorem monthAndDay_spec (first : Nat) (lengths : List Nat) (days : Nat)
    (h : days < total lengths) :
    ∃ past, monthAndDay first lengths days = (first + past, days - total (lengths.take past) + 1) ∧
      past < lengths.length ∧ total (lengths.take past) ≤ days ∧
        days < total (lengths.take past) + lengths.getD past 0 := by
  induction lengths generalizing first days with
  | nil => exact absurd h (Nat.not_lt_zero days)
  | cons length rest ih =>
    by_cases hfirst : days < length
    · refine ⟨0, ?_, Nat.zero_lt_succ _, Nat.zero_le _, ?_⟩
      · rw [monthAndDay, if_pos hfirst]
        rfl
      · simpa [total] using hfirst
    · have hrest : days - length < total rest := by
        simp only [total, List.foldr_cons] at h ⊢
        omega
      obtain ⟨past, hday, hpast, hlow, hhigh⟩ := ih (first + 1) (days - length) hrest
      have htotal :
          total ((length :: rest).take (past + 1)) = length + total (rest.take past) := rfl
      refine ⟨past + 1, ?_, Nat.succ_lt_succ hpast, by omega, ?_⟩
      · rw [monthAndDay, if_neg hfirst, hday, htotal, Nat.sub_sub, Nat.add_assoc, Nat.add_comm 1]
      · rw [htotal, List.getD_cons_succ]
        omega

theorem total_monthLengths (leap : Bool) : total (monthLengths leap) = yearLength leap := by
  cases leap <;> rfl

theorem length_monthLengths (leap : Bool) : (monthLengths leap).length = 12 := rfl

theorem total_take_succ (lengths : List Nat) (past : Nat) :
    total (lengths.take (past + 1)) = total (lengths.take past) + lengths.getD past 0 := by
  induction lengths generalizing past with
  | nil => simp [total]
  | cons length rest ih =>
    cases past with
    | zero => simp [total]
    | succ past =>
      calc total ((length :: rest).take (past + 2))
          = length + total (rest.take (past + 1)) := rfl
        _ = length + total (rest.take past) + rest.getD past 0 := by rw [ih, Nat.add_assoc]

theorem total_take_mono (lengths : List Nat) {past later : Nat} (h : past ≤ later) :
    total (lengths.take past) ≤ total (lengths.take later) := by
  induction later, h using Nat.le_induction with
  | base => exact le_rfl
  | succ later h ih => exact ih.trans (total_take_succ lengths later ▸ Nat.le_add_right _ _)

/-- Month after month, the days before them add up. -/
theorem daysBeforeMonth_succ (year : Nat) {month : Nat} (h : 1 ≤ month) :
    daysBeforeMonth year (month + 1) = daysBeforeMonth year month + monthLength year month := by
  obtain ⟨past, rfl⟩ : ∃ past, month = past + 1 := ⟨month - 1, by omega⟩
  exact total_take_succ (monthLengths (isLeap year)) past

theorem daysBeforeMonth_mono (year : Nat) {month later : Nat} (h : month ≤ later) :
    daysBeforeMonth year month ≤ daysBeforeMonth year later :=
  total_take_mono _ (Nat.sub_le_sub_right h 1)

theorem daysBeforeMonth_thirteen (year : Nat) :
    daysBeforeMonth year 13 = yearLength (isLeap year) := total_monthLengths (isLeap year)

/-- Year after year, the days before them add up. -/
theorem daysBeforeYear_succ {year : Nat} (h : 1 ≤ year) :
    daysBeforeYear (year + 1) = daysBeforeYear year + yearLength (isLeap year) := by
  obtain ⟨past, rfl⟩ : ∃ past, year = past + 1 := ⟨year - 1, by omega⟩
  -- Each of the quotients by 4, 100 and 400 goes up by one in the years that it divides.
  simp only [daysBeforeYear, Nat.add_sub_cancel, Nat.succ_div, yearLength, isLeap,
    Nat.dvd_iff_mod_eq_zero, Bool.and_eq_true, Bool.or_eq_true, decide_eq_true_eq, ne_eq]
  have hfour : (past + 1) % 100 = 0 → (past + 1) % 4 = 0 := by omega
  have hhundred : (past + 1) % 400 = 0 → (past + 1) % 100 = 0 := by omega
  have hfewer : past / 100 ≤ past / 4 := by omega
  split_ifs <;> omega

/-! ### Dates and day numbers -/

/-- The years before a year, in cycles of 400, of 100, of four years and of one. -/
theorem daysBeforeYear_cycles {centuries cycles years : Nat} (hcenturies : centuries ≤ 3)
    (hcycles : cycles ≤ 24) (hyears : years ≤ 3) (eras : Nat) :
    daysBeforeYear (eras * 400 + centuries * 100 + cycles * 4 + years + 1) =
      eras * 146097 + centuries * 36524 + cycles * 1461 + years * 365 := by
  have hfour : (eras * 400 + centuries * 100 + cycles * 4 + years) / 4 =
      eras * 100 + centuries * 25 + cycles := by omega
  have hhundred : (eras * 400 + centuries * 100 + cycles * 4 + years) / 100 =
      eras * 4 + centuries := by omega
  have hera : (eras * 400 + centuries * 100 + cycles * 4 + years) / 400 = eras := by omega
  simp only [daysBeforeYear, Nat.add_sub_cancel, hfour, hhundred, hera]
  omega

/-- The last year of a cycle of four is a leap year, but for those at the end of a century that is
not the last one of 400 years. -/
theorem isLeap_cycles {centuries cycles : Nat} (h : cycles < 24 ∨ cycles = 24 ∧ centuries = 3)
    (eras : Nat) : isLeap (eras * 400 + centuries * 100 + cycles * 4 + 3 + 1) = true := by
  simp only [isLeap, Bool.and_eq_true, Bool.or_eq_true, decide_eq_true_eq, ne_eq]
  omega

theorem le_yearLength (leap : Bool) : 365 ≤ yearLength leap := by
  cases leap <;> decide

/-- The year of a day number, and the days in it before that day. -/
theorem exists_year (number : Nat) :
    ∃ year days, 1 ≤ year ∧ number = daysBeforeYear year + days ∧
      days < yearLength (isLeap year) ∧
      date number = (year, monthAndDay 1 (monthLengths (isLeap year)) days) := by
  let inEra := number % 146097
  let centuries := min 3 (inEra / 36524)
  let inCentury := inEra - centuries * 36524
  let cycles := inCentury / 1461
  let inCycle := inCentury % 1461
  let years := min 3 (inCycle / 365)
  let year := number / 146097 * 400 + centuries * 100 + cycles * 4 + years + 1
  have hcenturies : centuries ≤ 3 := Nat.min_le_left _ _
  have hyears : years ≤ 3 := Nat.min_le_left _ _
  have hcycles : cycles ≤ 24 := by
    simp only [cycles, inCentury, centuries, inEra]
    omega
  refine ⟨year, inCycle - years * 365, Nat.succ_pos _, ?number, ?within, rfl⟩
  case number =>
    rw [daysBeforeYear_cycles hcenturies hcycles hyears]
    simp only [years, cycles, inCycle, inCentury, centuries, inEra]
    omega
  case within =>
    have hlength := le_yearLength (isLeap year)
    by_cases hshort : years < 3 ∨ cycles = 24 ∧ centuries < 3
    · -- Such a year has no day too many, be it a leap year or not.
      refine lt_of_lt_of_le ?_ hlength
      simp only [years, cycles, inCycle, inCentury, centuries, inEra] at hshort ⊢
      omega
    · have hlast : years = 3 := by omega
      have hleap : isLeap year = true := by
        simp only [year, hlast]
        exact isLeap_cycles (by omega) _
      rw [hleap, hlast, yearLength, if_pos rfl]
      simp only [inCycle]
      omega

/-- **Day numbers and dates.** The date of a day number is a date of the calendar, and the number is
that of the date. -/
theorem date_spec (number : Nat) :
    ∃ year month day, date number = (year, month, day) ∧ IsDate year month day ∧
      dayNumber year month day = number := by
  obtain ⟨year, days, hyear, hnumber, hdays, hdate⟩ := exists_year number
  rw [← total_monthLengths] at hdays
  obtain ⟨past, hmonth, hpast, hlow, hhigh⟩ := monthAndDay_spec 1 _ days hdays
  rw [length_monthLengths] at hpast
  let before := total ((monthLengths (isLeap year)).take past)
  refine ⟨year, 1 + past, days - before + 1, by rw [hdate, hmonth], ?_, ?_⟩
  · refine ⟨hyear, by omega, by omega, by omega, ?_⟩
    rw [monthLength, Nat.add_sub_cancel_left]
    omega
  · rw [dayNumber, daysBeforeMonth, Nat.add_sub_cancel_left, Nat.add_sub_cancel, hnumber]
    show daysBeforeYear year + before + (days - before) = daysBeforeYear year + days
    omega

/-! ### The next day -/

theorem daysBeforeYear_mono {year later : Nat} (hpos : 1 ≤ year) (h : year ≤ later) :
    daysBeforeYear year ≤ daysBeforeYear later := by
  induction later, h using Nat.le_induction with
  | base => exact le_rfl
  | succ later h ih =>
    rw [daysBeforeYear_succ (hpos.trans h)]
    exact ih.trans (Nat.le_add_right _ _)

section Order

variable {year month day later laterMonth laterDay : Nat}

theorem IsDate.dayNumber_lt (h : IsDate year month day) :
    dayNumber year month day < daysBeforeYear (year + 1) := by
  have hday := h.day_le
  have hpos := h.day_pos
  have hmonth := daysBeforeMonth_succ year h.month_pos
  have hend := daysBeforeMonth_mono year (Nat.add_le_add_right h.month_le 1)
  rw [daysBeforeMonth_thirteen] at hend
  rw [daysBeforeYear_succ h.year_pos, dayNumber]
  omega

theorem dayNumber_lt_of_year_lt (h : IsDate year month day) (hlt : year < later) :
    dayNumber year month day < dayNumber later laterMonth laterDay := by
  have hyear := h.dayNumber_lt
  have hlater : daysBeforeYear (year + 1) ≤ daysBeforeYear later :=
    daysBeforeYear_mono (Nat.succ_pos year) hlt
  simp only [dayNumber] at hyear ⊢
  omega

theorem dayNumber_lt_of_month_lt (h : IsDate year month day) (hlt : month < laterMonth) :
    dayNumber year month day < dayNumber year laterMonth laterDay := by
  have hday := h.day_le
  have hpos := h.day_pos
  have hmonth := daysBeforeMonth_succ year h.month_pos
  have hlater : daysBeforeMonth year (month + 1) ≤ daysBeforeMonth year laterMonth :=
    daysBeforeMonth_mono year hlt
  simp only [dayNumber]
  omega

/-- Two dates of one day are the same. -/
theorem IsDate.eq_of_dayNumber_eq (h : IsDate year month day)
    (hlater : IsDate later laterMonth laterDay)
    (heq : dayNumber year month day = dayNumber later laterMonth laterDay) :
    (year, month, day) = (later, laterMonth, laterDay) := by
  obtain rfl : year = later := by
    rcases Nat.lt_trichotomy year later with hlt | rfl | hgt
    · exact absurd heq (dayNumber_lt_of_year_lt h hlt).ne
    · rfl
    · exact absurd heq (dayNumber_lt_of_year_lt hlater hgt).ne'
  obtain rfl : month = laterMonth := by
    rcases Nat.lt_trichotomy month laterMonth with hlt | rfl | hgt
    · exact absurd heq (dayNumber_lt_of_month_lt h hlt).ne
    · rfl
    · exact absurd heq (dayNumber_lt_of_month_lt hlater hgt).ne'
  have hday := h.day_pos
  have hlaterDay := hlater.day_pos
  simp only [dayNumber] at heq
  obtain rfl : day = laterDay := by omega
  rfl

end Order

/-- The date after a date. -/
def dayAfter (year month day : Nat) : Nat × Nat × Nat :=
  if day < monthLength year month then (year, month, day + 1)
  else if month < 12 then (year, month + 1, 1)
  else (year + 1, 1, 1)

theorem monthLength_pos {year month : Nat} (hpos : 1 ≤ month) (hle : month ≤ 12) :
    1 ≤ monthLength year month := by
  have hlengths : ∀ (leap : Bool) (past : Fin 12), 1 ≤ (monthLengths leap).getD past 0 := by decide
  exact hlengths (isLeap year) ⟨month - 1, by omega⟩

theorem dayNumber_dayAfter {year month day : Nat} (h : IsDate year month day) :
    ∃ later laterMonth laterDay, dayAfter year month day = (later, laterMonth, laterDay) ∧
      IsDate later laterMonth laterDay ∧
        dayNumber later laterMonth laterDay = dayNumber year month day + 1 := by
  obtain ⟨hyear, hmonthPos, hmonth, hdayPos, hday⟩ := h
  rw [dayAfter]
  have hsucc := daysBeforeMonth_succ year hmonthPos
  split
  case isTrue hlt =>
    refine ⟨year, month, day + 1, rfl, ⟨hyear, hmonthPos, hmonth, Nat.succ_pos day, hlt⟩, ?_⟩
    simp only [dayNumber]
    omega
  case isFalse hlast =>
    split
    case isTrue hlt =>
      refine ⟨year, month + 1, 1, rfl, ⟨hyear, Nat.succ_pos month, hlt, le_rfl, ?_⟩, ?_⟩
      · exact monthLength_pos (Nat.succ_pos month) hlt
      · simp only [dayNumber, hsucc]
        omega
    case isFalse hyearEnd =>
      obtain rfl : month = 12 := by omega
      refine ⟨year + 1, 1, 1, rfl, ⟨Nat.succ_pos year, le_rfl, by decide, le_rfl, ?_⟩, ?_⟩
      · exact monthLength_pos le_rfl (by decide)
      · rw [daysBeforeMonth_thirteen] at hsucc
        simp only [dayNumber, daysBeforeYear_succ hyear]
        have hfirst : daysBeforeMonth (year + 1) 1 = 0 := rfl
        omega

/-- **From day to day.** The day after a date is the next day of its month, if there is one; else
the first day of the next month, and after December the first of January. -/
theorem date_succ {number year month day : Nat} (h : date number = (year, month, day)) :
    date (number + 1) = dayAfter year month day := by
  obtain ⟨_, _, _, hdate, hisDate, hnumber⟩ := date_spec number
  cases h.symm.trans hdate
  obtain ⟨later, laterMonth, laterDay, hafter, hlater, hsucc⟩ := dayNumber_dayAfter hisDate
  obtain ⟨next, nextMonth, nextDay, hnext, hisNext, hnextNumber⟩ := date_spec (number + 1)
  rw [hnext, hafter]
  refine hisNext.eq_of_dayNumber_eq hlater ?_
  rw [hnextNumber, hsucc, hnumber]

example : dayAfter 2024 2 28 = (2024, 2, 29) ∧ dayAfter 2100 2 28 = (2100, 3, 1) := by decide

end Calendar

namespace Moment

open Calendar

theorem micros_of_later? {time later : Moment} {micros : Nat}
    (h : time.later? micros = some later) : later.micros = time.micros + micros := by
  unfold later? at h
  dsimp only at h
  split at h
  · cases h
    dsimp only
    omega
  · cases h

theorem part_of_mem {low high n : Nat} (h : low ≤ n ∧ n ≤ high) (error : MomentError) :
    part low high error n = .ok ⟨n, h⟩ := by
  rw [part, dif_pos (by omega)]
  rfl

/-- The moment with a date and a time of day, which lie in their ranges. -/
theorem ofParts_eq_ok {year month day hour minute second micro : Nat}
    (hdate : IsDate year month day) (hyear : year ≤ 9999) (hhour : hour ≤ 23)
    (hminute : minute ≤ 59) (hsecond : second ≤ 59) (hmicro : micro ≤ 999999) {m : Moment}
    (hm : m.micros = Calendar.dayNumber year month day * microsPerDay +
      ((hour * 60 + minute) * 60 + second) * microsPerSecond + micro) :
    ofParts year month day hour minute second micro = .ok m := by
  obtain ⟨micros, inCalendar⟩ := m
  obtain rfl : micros = _ := hm
  simp only [ofParts, part_of_mem ⟨hdate.year_pos, hyear⟩,
    part_of_mem ⟨hdate.month_pos, hdate.month_le⟩, part_of_mem ⟨Nat.zero_le hour, hhour⟩,
    part_of_mem ⟨Nat.zero_le minute, hminute⟩, part_of_mem ⟨Nat.zero_le second, hsecond⟩,
    part_of_mem ⟨Nat.zero_le micro, hmicro⟩, part_of_mem ⟨hdate.day_pos, hdate.day_le⟩, bind,
    Except.bind]
  rfl

/-- A moment is the one with the date and the time of day that are read off it. -/
theorem ofParts_parts (m : Moment) :
    ∃ year month day, date m.dayNumber = (year, month, day) ∧
      ofParts year month day m.hour m.minute m.second m.microsecond = .ok m := by
  obtain ⟨year, month, day, hdate, hisDate, hnumber⟩ := date_spec m.dayNumber
  have hinCalendar := m.inCalendar
  have hyear : year ≤ 9999 := by
    by_contra hlarge
    have hbefore : dayCount ≤ daysBeforeYear year :=
      daysBeforeYear_mono (by decide) (Nat.lt_of_not_le hlarge)
    simp only [Calendar.dayNumber, dayNumber, microsPerDay, microsPerSecond] at hnumber hinCalendar
    omega
  refine ⟨year, month, day, hdate, ofParts_eq_ok hisDate hyear ?_ ?_ ?_ ?_ ?_⟩
  all_goals
    simp only [hnumber, hour, minute, second, microsecond, secondOfDay, dayNumber, microsPerDay,
      microsPerSecond]
    omega

end Moment

end ClipCadence
