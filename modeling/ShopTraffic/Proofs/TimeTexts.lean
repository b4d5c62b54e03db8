import Mathlib
import ShopTraffic.Proofs.Dates
import ShopTraffic.Proofs.DigitTexts
import ShopTraffic.Proofs.TimesOfDay

/-!
# Texts of days and instants

A day is shown as its date and an instant as the date of its day and its time of day, up to the end
of the year 262142; beyond, both are shown as counts. The two are shown alike: an instant as a date
exactly if its day is. Dates have no letters and counts have some, every field but the year has a
fixed width, and a year of more digits has a sign. So different days and different instants are
different texts.

* `Text.isDigit_of_mem_padded`, `Text.length_padded`, `Text.Letterless` — the characters of numbers
  and dates;
* `Date.text_inj`, `TimeOfDay.text_inj` — what a text is the date or the time of day of;
* `Day.Dated`, `Instant.Dated` — shown as a date; `Day.dated_iff`, `Instant.dated_iff` — when;
* `Instant.Displayed`, `texts_displayed` — what is shown, and that it tells days and instants apart.
-/

set_option autoImplicit false

namespace ShopTraffic

/-! ## Characters and widths -/

namespace Text

variable {width n n' : Nat} {s s' t t' : String}

theorem isDigit_of_mem_fixedDigits {c : Char} (h : c ∈ fixedDigits 10 width n) :
    c.isDigit = true := by
  induction width generalizing n with
  | zero => cases h
  | succ width ih =>
    rcases List.mem_append.1 h with h | h
    · exact ih h
    · rw [List.mem_singleton.1 h, digitChar, Nat.isDigit_digitChar]
      exact decide_eq_true (Nat.mod_lt n (by decide))

theorem isDigit_of_mem_padded {c : Char} (h : c ∈ (padded width n).toList) : c.isDigit = true := by
  unfold padded at h
  split at h
  · rw [String.toList_ofList] at h
    exact isDigit_of_mem_fixedDigits h
  · rw [Nat.toString_eq_ofList_toDigits, String.toList_ofList] at h
    exact Nat.isDigit_of_mem_toDigits (by decide) (by decide) h

/-- A number that fits is filled up to the width. -/
theorem length_padded (h : n < 10 ^ width) : (padded width n).length = width := by
  have hfits : n < Nat.pow 10 width := h
  unfold padded
  rw [if_pos hfits, String.length_ofList, length_fixedDigits]

/-- Texts with ends of one length are cut at the same place. -/
theorem append_inj_of_length (h : s ++ t = s' ++ t') (hlength : t.length = t'.length) :
    s = s' ∧ t = t' := by
  have hchars := congrArg String.toList h
  rw [String.toList_append, String.toList_append] at hchars
  obtain ⟨hs, ht⟩ := List.append_inj' hchars
    (by rw [String.length_toList, String.length_toList, hlength])
  exact ⟨String.toList_inj.1 hs, String.toList_inj.1 ht⟩

/-- A number of fixed width at the end of a text is told from what stands before it. -/
theorem append_padded_inj (h : s ++ padded width n = s' ++ padded width n') (hn : n < 10 ^ width)
    (hn' : n' < 10 ^ width) : s = s' ∧ n = n' := by
  obtain ⟨hs, hpadded⟩ :=
    append_inj_of_length h ((length_padded hn).trans (length_padded hn').symm)
  exact ⟨hs, padded_inj.1 hpadded⟩

/-- A text without letters. -/
def Letterless (s : String) : Prop := ∀ c ∈ s.toList, c.isAlpha = false

theorem letterless_append : Letterless (s ++ t) ↔ Letterless s ∧ Letterless t := by
  unfold Letterless
  rw [String.toList_append]
  exact List.forall_mem_append

theorem letterless_padded (width n : Nat) : Letterless (padded width n) := fun c hc => by
  have hdigit := isDigit_of_mem_padded hc
  simp only [Char.isDigit, Bool.and_eq_true, decide_eq_true_eq] at hdigit
  have hupper : ¬c.val ≥ 'A'.val := fun h =>
    absurd (UInt32.le_trans h hdigit.2) (by decide)
  have hlower : ¬c.val ≥ 'a'.val := fun h =>
    absurd (UInt32.le_trans h hdigit.2) (by decide)
  simp only [Char.isAlpha, Char.isUpper, Char.isLower, hupper, hlower, decide_false, Bool.false_and,
    Bool.or_false, false_and]

end Text

/-! ## Texts of dates -/

namespace Date

variable {d d' : Date} {year year' : Nat}

theorem letterless_yearText (year : Nat) : Text.Letterless (yearText year) := by
  unfold yearText
  split
  · exact Text.letterless_padded 4 year
  · exact Text.letterless_append.2 ⟨by simp [Text.Letterless], Text.letterless_padded 4 year⟩

theorem letterless_text (d : Date) : Text.Letterless d.text := by
  have hdash : Text.Letterless "-" := by simp [Text.Letterless]
  unfold text
  simp only [Text.letterless_append, letterless_yearText, Text.letterless_padded, hdash, and_self]

/-- A year of more digits begins with its sign, and no other does. -/
theorem yearText_inj : yearText year = yearText year' ↔ year = year' := by
  have hsign : ∀ n m, Text.padded 4 n ≠ "+" ++ Text.padded 4 m := fun n m h => by
    have hmem : '+' ∈ (Text.padded 4 n).toList := by
      rw [h, String.toList_append]
      exact List.mem_append_left _ (by decide)
    exact absurd (Text.isDigit_of_mem_padded hmem) (by decide)
  refine ⟨fun h => ?_, congrArg yearText⟩
  unfold yearText at h
  split at h <;> split at h
  · exact Text.padded_inj.1 h
  · exact absurd h (hsign _ _)
  · exact absurd h.symm (hsign _ _)
  · exact Text.padded_inj.1 ((String.append_right_inj _).1 h)

/-- **A text is that of one date.** -/
theorem text_inj (h : d.Valid) (h' : d'.Valid) : d.text = d'.text ↔ d = d' := by
  refine ⟨fun htext => ?_, congrArg text⟩
  have hmonths : ∀ {d : Date}, d.Valid → d.month < 10 ^ 2 := fun h => by
    have hmonth := h.month_le
    omega
  have hdays : ∀ {d : Date}, d.Valid → d.day < 10 ^ 2 := fun {d} h => by
    have hday := h.day_le.trans (monthLength_le d.year d.month)
    omega
  unfold text at htext
  obtain ⟨htext, hday⟩ := Text.append_padded_inj htext (hdays h) (hdays h')
  obtain ⟨htext, hmonth⟩ :=
    Text.append_padded_inj ((String.append_left_inj _).1 htext) (hmonths h) (hmonths h')
  have hyear := yearText_inj.1 ((String.append_left_inj _).1 htext)
  obtain ⟨year, month, day⟩ := d
  obtain ⟨year', month', day'⟩ := d'
  rw [mk.injEq]
  exact ⟨hyear, hmonth, hday⟩

end Date

/-! ## Texts of times of day -/

namespace TimeOfDay

variable {o o' : TimeOfDay}

/-- Hours, minutes, seconds and milliseconds, each filled up with zeros. -/
def text (o : TimeOfDay) : String :=
  Text.padded 2 o.hour ++ ":" ++ Text.padded 2 o.minute ++ ":" ++ Text.padded 2 o.second ++ "." ++
    Text.padded 3 o.milli

theorem letterless_text (o : TimeOfDay) : Text.Letterless o.text := by
  have hcolon : Text.Letterless ":" := by simp [Text.Letterless]
  have hpoint : Text.Letterless "." := by simp [Text.Letterless]
  unfold text
  simp only [Text.letterless_append, Text.letterless_padded, hcolon, hpoint, and_self]

/-- All texts of times of day are of one length. -/
theorem OnClock.length_text (h : o.OnClock) : o.text.length = 12 := by
  obtain ⟨hhour, hminute, hsecond, hmilli⟩ := h
  have hcolon : ":".length = 1 := rfl
  have hpoint : ".".length = 1 := rfl
  unfold text
  simp only [String.length_append, hcolon, hpoint]
  rw [Text.length_padded (by omega), Text.length_padded (by omega), Text.length_padded (by omega),
    Text.length_padded (by omega)]

/-- **A text is that of one time of day.** -/
theorem text_inj (h : o.OnClock) (h' : o'.OnClock) : o.text = o'.text ↔ o = o' := by
  refine ⟨fun htext => ?_, congrArg text⟩
  obtain ⟨hhour, hminute, hsecond, hmilli⟩ := h
  obtain ⟨hhour', hminute', hsecond', hmilli'⟩ := h'
  unfold text at htext
  obtain ⟨htext, hmillis⟩ := Text.append_padded_inj htext (by omega) (by omega)
  obtain ⟨htext, hseconds⟩ :=
    Text.append_padded_inj ((String.append_left_inj _).1 htext) (by omega) (by omega)
  obtain ⟨htext, hminutes⟩ :=
    Text.append_padded_inj ((String.append_left_inj _).1 htext) (by omega) (by omega)
  have hhours := Text.padded_inj.1 ((String.append_left_inj _).1 htext)
  obtain ⟨hour, minute, second, milli⟩ := o
  obtain ⟨hour', minute', second', milli'⟩ := o'
  rw [mk.injEq]
  exact ⟨hhours, hminutes, hseconds, hmillis⟩

end TimeOfDay

theorem timeOfDayText_eq (t : Instant) :
    timeOfDayText (t.millis % millisPerDay) = t.timeOfDay.text := by
  have hminute : t.millis % millisPerDay / 60000 % 60 = t.millis / 60000 % 60 := by
    unfold millisPerDay
    omega
  have hsecond : t.millis % millisPerDay / 1000 % 60 = t.millis / 1000 % 60 := by
    unfold millisPerDay
    omega
  have hmilli : t.millis % millisPerDay % 1000 = t.millis % 1000 := by
    unfold millisPerDay
    omega
  unfold timeOfDayText
  rw [hminute, hsecond, hmilli]
  rfl

/-! ## What is shown -/

/-- A day is shown as a date. -/
def Day.Dated (d : Day) : Prop := ∃ date : Date, d.text = date.text

/-- An instant is shown as a date and a time of day. -/
def Instant.Dated (t : Instant) : Prop :=
  ∃ (date : Date) (o : TimeOfDay), t.text = date.text ++ " " ++ o.text

namespace Day

variable {d : Day}

/-- A day that has a date begins where its number says, and a later one not before the first day
that has none. -/
theorem start_le_lastDated_iff : d.start.day.number ≤ lastDated ↔ d.number ≤ lastDated := by
  unfold Instant.day start lastDated millisPerDay
  simp only [Instant.millis_cap]
  omega

theorem text_of_le (h : d.number ≤ lastDated) : d.text = (Date.ofDay d.number).text := by
  have hstart : d.start.millis = d.number * millisPerDay := by
    unfold start millisPerDay
    unfold lastDated at h
    rw [Instant.millis_cap]
    omega
  unfold text
  rw [if_pos (start_le_lastDated_iff.2 h), day_start hstart]

theorem text_of_not_le (h : ¬d.number ≤ lastDated) : d.text = "day " ++ toString d.number := by
  unfold text
  rw [if_neg (mt start_le_lastDated_iff.1 h)]
  rfl

/-- A count of days has letters. -/
theorem not_letterless (n : Nat) : ¬Text.Letterless ("day " ++ toString n) := fun h =>
  absurd (Text.letterless_append.1 h).1 (by simp [Text.Letterless])

/-- **The days that are shown as dates** are those up to the last one. -/
theorem dated_iff : d.Dated ↔ d.number ≤ lastDated := by
  refine ⟨fun ⟨date, hdate⟩ => ?_, fun h => ⟨_, text_of_le h⟩⟩
  by_contra hbeyond
  rw [text_of_not_le hbeyond] at hdate
  exact not_letterless d.number (hdate ▸ date.letterless_text)

/-- **Different days are different texts.** -/
theorem text_injective : Function.Injective text := by
  intro d d' h
  have hsame : d.number ≤ lastDated ↔ d'.number ≤ lastDated := by
    rw [← dated_iff, ← dated_iff, Dated, Dated, h]
  have hnumber : d.number = d'.number := by
    by_cases hd : d.number ≤ lastDated
    · rw [text_of_le hd, text_of_le (hsame.1 hd)] at h
      exact Date.ofDay_injective
        ((Date.text_inj (Date.valid_ofDay _) (Date.valid_ofDay _)).1 h)
    · rw [text_of_not_le hd, text_of_not_le (mt hsame.2 hd)] at h
      exact Nat.repr_inj.1 ((String.append_right_inj _).1 h)
  obtain ⟨number, hfits⟩ := d
  obtain ⟨number', hfits'⟩ := d'
  cases hnumber
  rfl

end Day

namespace Instant

variable {t : Instant}

theorem text_of_le (h : t.day.number ≤ lastDated) :
    t.text = (Date.ofDay t.day.number).text ++ " " ++ t.timeOfDay.text := by
  unfold text
  rw [if_pos h, timeOfDayText_eq]

theorem text_of_not_le (h : ¬t.day.number ≤ lastDated) : t.text = toString t.millis ++ "ms" := by
  unfold text
  rw [if_neg h]
  rfl

/-- A count of milliseconds has letters. -/
theorem not_letterless (n : Nat) : ¬Text.Letterless (toString n ++ "ms") := fun h =>
  absurd (Text.letterless_append.1 h).2 (by simp [Text.Letterless])

/-- **The instants that are shown as dates** are those of the days up to the last one. -/
theorem dated_iff : t.Dated ↔ t.day.number ≤ lastDated := by
  refine ⟨fun ⟨date, o, hdate⟩ => ?_, fun h => ⟨_, _, text_of_le h⟩⟩
  by_contra hbeyond
  rw [text_of_not_le hbeyond] at hdate
  have hblank : Text.Letterless " " := by simp [Text.Letterless]
  refine not_letterless t.millis (hdate ▸ ?_)
  exact Text.letterless_append.2
    ⟨Text.letterless_append.2 ⟨date.letterless_text, hblank⟩, o.letterless_text⟩

/-- **Different instants are different texts.** -/
theorem text_injective : Function.Injective text := by
  intro t t' h
  have hsame : t.day.number ≤ lastDated ↔ t'.day.number ≤ lastDated := by
    rw [← dated_iff, ← dated_iff, Dated, Dated, h]
  refine ext_millis ?_
  by_cases ht : t.day.number ≤ lastDated
  · rw [text_of_le ht, text_of_le (hsame.1 ht)] at h
    have hclock := t.timeOfDay_onClock
    have hclock' := t'.timeOfDay_onClock
    obtain ⟨hdate, htime⟩ :=
      Text.append_inj_of_length h (hclock.length_text.trans hclock'.length_text.symm)
    have hday : t.day.number = t'.day.number := Date.ofDay_injective
      ((Date.text_inj (Date.valid_ofDay _) (Date.valid_ofDay _)).1
        ((String.append_left_inj _).1 hdate))
    have hclocks : t.timeOfDay = t'.timeOfDay := (TimeOfDay.text_inj hclock hclock').1 htime
    rw [t.millis_eq, t'.millis_eq, hday, hclocks]
  · rw [text_of_not_le ht, text_of_not_le (mt hsame.2 ht)] at h
    exact Nat.repr_inj.1 ((String.append_left_inj _).1 h)

/-- How an instant and its day are shown. -/
structure Displayed (t : Instant) : Prop where
  /-- An instant is shown as a date if its day is, and not otherwise; -/
  dated_iff : t.Dated ↔ t.day.Dated
  /-- that is, up to the end of the year 262142. -/
  until_iff : t.day.Dated ↔ (Date.ofDay t.day.number).year ≤ 262142
  /-- A date has the time of day behind it, as a clock shows it; -/
  dated : t.day.Dated → t.day.text = (Date.ofDay t.day.number).text ∧
    t.text = t.day.text ++ " " ++ t.timeOfDay.text
  clock : t.timeOfDay.OnClock ∧ t.millis = t.day.number * millisPerDay + t.timeOfDay.millis
  /-- beyond, the day and the instant are counted. -/
  counted : ¬t.day.Dated →
    t.day.text = "day " ++ toString t.day.number ∧ t.text = toString t.millis ++ "ms"

theorem displayed (t : Instant) : t.Displayed where
  dated_iff := dated_iff.trans Day.dated_iff.symm
  until_iff := Day.dated_iff.trans (Date.year_ofDay_le_iff _).symm
  dated := fun h => by
    have hday := Day.dated_iff.1 h
    rw [text_of_le hday, Day.text_of_le hday]
    exact ⟨rfl, rfl⟩
  clock := ⟨t.timeOfDay_onClock, t.millis_eq⟩
  counted := fun h => by
    have hday := mt Day.dated_iff.2 h
    exact ⟨Day.text_of_not_le hday, text_of_not_le hday⟩

end Instant

/-- **Days and instants are shown alike.** The dates that days are shown as are those of the
calendar, one after the other from the first of January 1970 on. An instant is shown as a date
exactly if its day is, with its time of day behind the date, and otherwise both are shown as counts;
and different instants, as well as different days, are different texts. -/
theorem texts_displayed :
    (Date.ofDay 0 = ⟨1970, 1, 1⟩ ∧ ∀ n, Date.ofDay (n + 1) = (Date.ofDay n).next) ∧
    (∀ t : Instant, t.Displayed) ∧
    Function.Injective Instant.text ∧ Function.Injective Day.text :=
  ⟨⟨Date.ofDay_zero, Date.ofDay_succ⟩, Instant.displayed, Instant.text_injective,
    Day.text_injective⟩

end ShopTraffic
