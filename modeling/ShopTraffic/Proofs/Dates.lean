import Mathlib
import ShopTraffic.Time.Calendar

/-!
# Days follow each other as in the calendar

The date of a day is reckoned in cycles of four hundred years that begin in March. It is the date of
the Gregorian calendar: the first day is the first of January 1970, and the day after a day has the
date after its date, by the lengths of the months and the rule for leap years. So dates rise with
their days, and different days have different dates.

* `Date.IsLeap`, `Date.monthLength`, `Date.next` — the calendar, date by date;
* `Date.marchStart`, `Date.ofMarch` — days and dates by years that begin in March;
  `Date.ofDay_of_march` — how a day number comes to its date;
* `Date.ofDay_zero`, `Date.ofDay_succ` — the dates of all days, one after the other;
* `Date.rank`, `Date.strictMono_rank`, `Date.ofDay_injective` — dates rise;
* `Date.year_ofDay_le_iff` — the last day that is shown as a date ends the year 262142.
-/

set_option autoImplicit false

namespace ShopTraffic

namespace Date

/-! ## The calendar -/

/-- Every fourth year has a leap day, but of the full centuries only every fourth. -/
def IsLeap (year : Nat) : Prop := 4 ∣ year ∧ (¬100 ∣ year ∨ 400 ∣ year)

instance (year : Nat) : Decidable (IsLeap year) := inferInstanceAs (Decidable (_ ∧ _))

/-- The days of a month. -/
def monthLength (year month : Nat) : Nat :=
  if month = 2 then if IsLeap year then 29 else 28
  else if month = 4 ∨ month = 6 ∨ month = 9 ∨ month = 11 then 30
  else 31

/-- The following date. -/
def next (d : Date) : Date :=
  if d.day < monthLength d.year d.month then { d with day := d.day + 1 }
  else if d.month < 12 then ⟨d.year, d.month + 1, 1⟩
  else ⟨d.year + 1, 1, 1⟩

/-- A date that the calendar has. -/
structure Valid (d : Date) : Prop where
  month_pos : 1 ≤ d.month
  month_le : d.month ≤ 12
  day_pos : 1 ≤ d.day
  day_le : d.day ≤ monthLength d.year d.month

theorem one_le_monthLength (year month : Nat) : 1 ≤ monthLength year month := by
  unfold monthLength
  split_ifs <;> decide

theorem monthLength_le (year month : Nat) : monthLength year month ≤ 31 := by
  unfold monthLength
  split_ifs <;> decide

/-- After a date of the calendar comes a date of the calendar. -/
theorem Valid.next {d : Date} (h : d.Valid) : d.next.Valid := by
  unfold Date.next
  split
  · rename_i hstays
    exact ⟨h.month_pos, h.month_le, Nat.succ_pos _, hstays⟩
  · split
    · rename_i hearlier
      exact ⟨Nat.succ_pos _, hearlier, Nat.le_refl _, one_le_monthLength _ _⟩
    · exact ⟨Nat.le_refl _, (by decide : 1 ≤ 12), Nat.le_refl _, one_le_monthLength _ _⟩

/-! ## Years that begin in March -/

/-- The days of the year that begins in March of `year`. -/
def marchLength (year : Nat) : Nat := if IsLeap (year + 1) then 366 else 365

/-- The days from March of the year 0 to March of `year`. -/
def marchStart (year : Nat) : Nat := 365 * year + year / 4 - year / 100 + year / 400

/-- The days from March to a month that is counted from March. -/
def monthStart (month : Nat) : Nat := (153 * month + 2) / 5

/-- The date of a day of a month, both counted from the first of March of `year`. -/
def ofMonth (year month day : Nat) : Date :=
  if month < 10 then ⟨year, month + 3, day + 1⟩ else ⟨year + 1, month - 9, day + 1⟩

/-- The date of a day of the year that begins in March of `year`. -/
def ofMarch (year day : Nat) : Date := ofMonth year (monthOfYear day).1 (monthOfYear day).2

theorem marchLength_eq (year : Nat) : IsLeap (year + 1) ∧ marchLength year = 366 ∨
    ¬IsLeap (year + 1) ∧ marchLength year = 365 := by
  unfold marchLength
  split
  · exact .inl ⟨‹_›, rfl⟩
  · exact .inr ⟨‹_›, rfl⟩

theorem marchStart_succ (year : Nat) :
    marchStart (year + 1) = marchStart year + marchLength year := by
  have hlength := marchLength_eq year
  unfold IsLeap at hlength
  unfold marchStart
  rw [Nat.succ_div, Nat.succ_div, Nat.succ_div]
  split_ifs <;> omega

/-- Every day is some days into a year. -/
theorem exists_march (n : Nat) :
    ∃ year day, day < marchLength year ∧ n = marchStart year + day := by
  induction n with
  | zero => exact ⟨0, 0, by decide, rfl⟩
  | succ n ih =>
    obtain ⟨year, day, hday, rfl⟩ := ih
    by_cases hnext : day + 1 < marchLength year
    · exact ⟨year, day + 1, hnext, rfl⟩
    · have hlength := marchLength_eq (year + 1)
      refine ⟨year + 1, 0, by omega, ?_⟩
      rw [marchStart_succ]
      omega

/-- The year of a day of a cycle: `century` full centuries, `four` times four years and `year` years
lie before it. -/
theorem yearOfCycle_eq {century four year day : Nat} (hcentury : century < 4) (hfour : four < 25)
    (hyear : year < 4) (hday : day < 365 ∨ day = 365 ∧ year = 3 ∧ (four < 24 ∨ century = 3)) :
    yearOfCycle (36524 * century + 1461 * four + 365 * year + day) =
      (100 * century + 4 * four + year, day) := by
  generalize hsum : 36524 * century + 1461 * four + 365 * year + day = sum
  have hleap : sum / 1460 = 25 * century + four +
      if year = 3 ∧ 365 ≤ 24 * century + four + day then 1 else 0 := by
    split <;> omega
  have hfull : sum / 36524 = century + sum / 146096 := by
    by_cases hlast : sum < 36524 * (century + 1)
    · have hcycle : sum / 146096 = 0 := by omega
      have hwhole : sum / 36524 = century := by omega
      omega
    · have hsum : sum = 146096 := by omega
      rw [hsum]
      omega
  have hwhole : (sum - sum / 1460 + sum / 36524 - sum / 146096) / 365 =
      100 * century + 4 * four + year := by
    rw [hleap, hfull]
    split <;> omega
  unfold yearOfCycle
  simp only [hwhole, Prod.mk.injEq, true_and]
  omega

/-- **The date of a day** that is some days into a year beginning in March. -/
theorem ofDay_of_march {n year day : Nat} (hday : day < marchLength year)
    (hn : n + 719468 = marchStart year + day) : ofDay n = ofMarch year day := by
  have hlength := marchLength_eq year
  unfold IsLeap at hlength
  have hfours : year / 4 / 25 = year / 100 := Nat.div_div_eq_div_mul year 4 25
  have hcenturies : year / 100 / 4 = year / 400 := Nat.div_div_eq_div_mul year 100 4
  have hleap : day < 365 ∨
      day = 365 ∧ year % 4 = 3 ∧ (year / 4 % 25 < 24 ∨ year / 100 % 4 = 3) := by
    omega
  generalize hsum : 36524 * (year / 100 % 4) + 1461 * (year / 4 % 25) + 365 * (year % 4) + day = sum
  have hfits : sum < daysPerCycle := by
    unfold daysPerCycle
    omega
  have hn : n + 719468 = sum + year / 400 * daysPerCycle := by
    unfold marchStart at hn
    unfold daysPerCycle
    omega
  have hcycle : (n + 719468) / daysPerCycle = year / 400 := by
    rw [hn, Nat.add_mul_div_right _ _ (by decide), Nat.div_eq_of_lt hfits, Nat.zero_add]
  have hrest : (n + 719468) % daysPerCycle = sum := by
    rw [hn, Nat.add_mul_mod_self_right, Nat.mod_eq_of_lt hfits]
  have hyear : year / 400 * 400 + (100 * (year / 100 % 4) + 4 * (year / 4 % 25) + year % 4) =
      year := by
    omega
  unfold ofDay
  simp only [hcycle, hrest]
  rw [← hsum, yearOfCycle_eq (by omega) (by omega) (by omega) hleap]
  simp only [hyear]
  rfl

variable {year month day : Nat}

theorem ofMarch_eq_ofMonth (h : monthStart month + day < monthStart (month + 1)) :
    ofMarch year (monthStart month + day) = ofMonth year month day := by
  have hfound : (5 * (monthStart month + day) + 2) / 153 = month := by
    unfold monthStart at h ⊢
    omega
  have hmonth : monthOfYear (monthStart month + day) = (month, day) := by
    unfold monthOfYear
    rw [hfound]
    exact congrArg (month, ·) (Nat.add_sub_cancel_left ..)
  rw [ofMarch, hmonth]

/-- Every day of a year is some days into a month. -/
theorem exists_month (h : day < 366) : ∃ month < 12, ∃ rest,
    monthStart month + rest < monthStart (month + 1) ∧ day = monthStart month + rest := by
  unfold monthStart
  refine ⟨(5 * day + 2) / 153, ?_, day - (153 * ((5 * day + 2) / 153) + 2) / 5, ?_, ?_⟩ <;> omega

/-- A month ends where the next one begins, and the last one with its year. -/
theorem monthLength_ofMonth (hmonth : month < 12) :
    monthLength (ofMonth year month day).year (ofMonth year month day).month =
      min (monthStart (month + 1)) (marchLength year) - monthStart month := by
  have hlength := marchLength_eq year
  unfold ofMonth monthLength monthStart
  interval_cases month <;> simp <;> grind

theorem next_ofMonth (hmonth : month < 12) : (ofMonth year month day).next =
    if monthStart month + (day + 1) < min (monthStart (month + 1)) (marchLength year) then
      ofMonth year month (day + 1)
    else if month < 11 then ofMonth year (month + 1) 0
    else ofMonth (year + 1) 0 0 := by
  have hday : (ofMonth year month day).day = day + 1 := by
    unfold ofMonth
    split <;> rfl
  have hstays : day + 1 < min (monthStart (month + 1)) (marchLength year) - monthStart month ↔
      monthStart month + (day + 1) < min (monthStart (month + 1)) (marchLength year) := by
    omega
  unfold next
  rw [monthLength_ofMonth hmonth, hday]
  simp only [hstays]
  split
  · unfold ofMonth
    split <;> rfl
  · -- December ends the year of the calendar, February the year that is counted from March.
    rcases (by omega : month < 9 ∨ month = 9 ∨ month = 10 ∨ month = 11) with h | rfl | rfl | rfl
    · have hten : month < 10 := by omega
      have hnext : month + 1 < 10 := by omega
      have htwelve : month + 3 < 12 := by omega
      have heleven : month < 11 := by omega
      simp only [ofMonth, if_pos hten, if_pos hnext, if_pos htwelve, if_pos heleven]
    all_goals rfl

/-- **The date after a date**, within its year or at the beginning of the next one. -/
theorem next_ofMarch (h : day < marchLength year) : (ofMarch year day).next =
    if day + 1 < marchLength year then ofMarch year (day + 1) else ofMarch (year + 1) 0 := by
  have hlength := marchLength_eq year
  have hday : day < 366 := by omega
  obtain ⟨month, hmonth, rest, hrest, rfl⟩ := exists_month hday
  have hlast : month = 11 → marchLength year < monthStart (month + 1) := by
    unfold monthStart
    omega
  have hwithin : month < 11 → monthStart (month + 1) < marchLength year := by
    unfold monthStart
    omega
  rw [ofMarch_eq_ofMonth hrest, next_ofMonth hmonth, Nat.add_assoc]
  split
  · rw [if_pos (by omega), ofMarch_eq_ofMonth (by omega)]
  · split
    · rename_i hearlier
      have hfits := hwithin hearlier
      have hstart : monthStart month + (rest + 1) = monthStart (month + 1) + 0 := by omega
      have hnext : monthStart (month + 1) + 0 < monthStart (month + 1 + 1) := by
        unfold monthStart
        omega
      rw [hstart, if_pos (by omega), ofMarch_eq_ofMonth hnext]
    · have hends := hlast (by omega)
      rw [if_neg (by omega)]
      rfl

/-! ## The dates of all days -/

/-- The first day. -/
theorem ofDay_zero : ofDay 0 = ⟨1970, 1, 1⟩ := by decide

/-- **The day after a day has the date after its date.** -/
theorem ofDay_succ (n : Nat) : ofDay (n + 1) = (ofDay n).next := by
  obtain ⟨year, day, hday, hn⟩ := exists_march (n + 719468)
  rw [ofDay_of_march hday hn, next_ofMarch hday]
  split
  · rename_i hnext
    exact ofDay_of_march hnext (by omega)
  · rename_i hlast
    have hlength := marchLength_eq (year + 1)
    refine ofDay_of_march (by omega) ?_
    rw [marchStart_succ]
    omega

/-- The year 2000 is a full century with a leap day. -/
example : ofDay 11016 = ⟨2000, 2, 29⟩ := by decide

/-- **Every day has a date of the calendar.** -/
theorem valid_ofDay (n : Nat) : (ofDay n).Valid := by
  induction n with
  | zero =>
    rw [ofDay_zero]
    exact ⟨by decide, by decide, by decide, by decide⟩
  | succ n ih =>
    rw [ofDay_succ]
    exact ih.next

/-! ## Dates rise -/

/-- A number that rises with the dates: by year, month and day. -/
def rank (d : Date) : Nat := 372 * d.year + 31 * d.month + d.day

theorem rank_lt_next {d : Date} (h : d.Valid) : d.rank < d.next.rank := by
  have hlength := monthLength_le d.year d.month
  have hday := h.day_le
  have hmonth := h.month_le
  unfold next rank
  split
  · simp only
    omega
  · split <;> simp only <;> omega

theorem strictMono_rank : StrictMono fun n => (ofDay n).rank :=
  strictMono_nat_of_lt_succ fun n => by
    rw [ofDay_succ]
    exact rank_lt_next (valid_ofDay n)

/-- **Different days have different dates.** -/
theorem ofDay_injective : Function.Injective ofDay := fun _ _ h =>
  strictMono_rank.injective (congrArg rank h)

theorem ofDay_lastDated : ofDay lastDated = ⟨262142, 12, 31⟩ := by decide

/-- **The last day that is shown as a date** ends the year 262142. -/
theorem year_ofDay_le_iff (n : Nat) : (ofDay n).year ≤ 262142 ↔ n ≤ lastDated := by
  obtain ⟨hmonth, hmonth', hday, hday'⟩ := valid_ofDay n
  have hlength := monthLength_le (ofDay n).year (ofDay n).month
  have hrank : (ofDay n).rank ≤ (ofDay lastDated).rank ↔ n ≤ lastDated := strictMono_rank.le_iff_le
  rw [← hrank, ofDay_lastDated]
  simp only [rank]
  omega

end Date

end ShopTraffic
