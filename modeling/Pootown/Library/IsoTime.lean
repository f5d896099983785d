import Mathlib.Tactic
import Pootown.Library.Checksums

/-!
# ISO texts of times

A time is a number of milliseconds since the beginning of 1970; its text is the extended ISO form
in UTC, with four digits for the years up to 9999 and a sign and six digits for the others.

* `civilOfDays`, `daysOfCivil`: days and dates of the Gregorian calendar, `daysOfCivil_civilOfDays`;
* `toISOString`, `readISOString`, and `readISOString_toISOString`.
-/

namespace IsoTime

open Checksums

/-! ### Dates -/

structure CivilDate where
  year : ℤ
  month : ℕ
  day : ℕ
  deriving DecidableEq

/-- The days of the years before a year of an era of 400 years. -/
def daysBefore (yearOfEra : ℕ) : ℕ := 365 * yearOfEra + yearOfEra / 4 - yearOfEra / 100

/-- The year of a day of an era: centuries of 36524 days and the last of one more, in them four
years of 1461 days, in them years of 365 days and the last of one more. -/
def yearOfDay (dayOfEra : ℕ) : ℕ :=
  let century := min (dayOfEra / 36524) 3
  let dayOfCentury := dayOfEra - 36524 * century
  100 * century + 4 * (dayOfCentury / 1461) + min (dayOfCentury % 1461 / 365) 3

/-- A day of a year of an era. Years begin in March here, so that the leap day is the last of its
year, and eras begin with the year 0. -/
def civilOf (era : ℤ) (yearOfEra dayOfYear : ℕ) : CivilDate :=
  let month := (5 * dayOfYear + 2) / 153
  let day := dayOfYear - (153 * month + 2) / 5 + 1
  if month < 10 then ⟨era * 400 + yearOfEra, month + 3, day⟩
  else ⟨era * 400 + yearOfEra + 1, month - 9, day⟩

/-- The date of a day, counted from 1970-01-01. -/
def civilOfDays (days : ℤ) : CivilDate :=
  let dayOfEra := ((days + 719468) % 146097).toNat
  let yearOfEra := yearOfDay dayOfEra
  civilOf ((days + 719468) / 146097) yearOfEra (dayOfEra - daysBefore yearOfEra)

def daysOfCivil (date : CivilDate) : ℤ :=
  let year := if date.month ≤ 2 then date.year - 1 else date.year
  let month := if date.month ≤ 2 then date.month + 9 else date.month - 3
  year / 400 * 146097 + daysBefore (year % 400).toNat +
    ((153 * month + 2) / 5 + date.day : ℕ) - 719469

theorem yearOfDay_bounds {dayOfEra : ℕ} (h : dayOfEra < 146097) :
    yearOfDay dayOfEra < 400 ∧ daysBefore (yearOfDay dayOfEra) ≤ dayOfEra ∧
      dayOfEra < daysBefore (yearOfDay dayOfEra) + 366 := by
  unfold yearOfDay daysBefore
  dsimp only
  obtain ⟨century, hcentury⟩ : ∃ century, century = min (dayOfEra / 36524) 3 := ⟨_, rfl⟩
  rw [← hcentury]
  obtain ⟨day, hday⟩ : ∃ day, day = dayOfEra - 36524 * century := ⟨_, rfl⟩
  rw [← hday]
  have hlt : day ≤ 36524 ∧ dayOfEra = 36524 * century + day ∧ century ≤ 3 := by omega
  obtain ⟨four, hfour⟩ : ∃ four, four = day / 1461 := ⟨_, rfl⟩
  obtain ⟨year, hyear⟩ : ∃ year, year = min (day % 1461 / 365) 3 := ⟨_, rfl⟩
  rw [← hfour, ← hyear]
  have hfour' : four ≤ 24 ∧ year ≤ 3 := by omega
  have hquarter : (100 * century + 4 * four + year) / 4 = 25 * century + four := by omega
  have hhundred : (100 * century + 4 * four + year) / 100 = century := by omega
  rw [hquarter, hhundred]
  omega

/-- The month and the day of the month, with the days of the months before. -/
theorem month_bounds {dayOfYear month : ℕ} (h : dayOfYear < 366)
    (hmonth : month = (5 * dayOfYear + 2) / 153) :
    month ≤ 11 ∧ (153 * month + 2) / 5 ≤ dayOfYear ∧ dayOfYear < (153 * month + 2) / 5 + 31 := by
  omega

theorem civilOf_bounds (era : ℤ) (yearOfEra : ℕ) {dayOfYear : ℕ} (h : dayOfYear < 366) :
    (civilOf era yearOfEra dayOfYear).month ≤ 12 ∧ (civilOf era yearOfEra dayOfYear).day ≤ 31 := by
  obtain ⟨month, hmonth⟩ : ∃ month, month = (5 * dayOfYear + 2) / 153 := ⟨_, rfl⟩
  obtain ⟨hle, hfirst, hlast⟩ := month_bounds h hmonth
  unfold civilOf
  rw [← hmonth]
  dsimp only
  split_ifs
  · exact ⟨by dsimp only; omega, by dsimp only; omega⟩
  · exact ⟨by dsimp only; omega, by dsimp only; omega⟩

theorem daysOfCivil_civilOf (era : ℤ) {yearOfEra dayOfYear : ℕ} (hyear : yearOfEra < 400)
    (hday : dayOfYear < 366) : daysOfCivil (civilOf era yearOfEra dayOfYear)
      = era * 146097 + daysBefore yearOfEra + dayOfYear - 719468 := by
  obtain ⟨month, hmonth⟩ : ∃ month, month = (5 * dayOfYear + 2) / 153 := ⟨_, rfl⟩
  obtain ⟨hle, hfirst, -⟩ := month_bounds hday hmonth
  have hdiv : (era * 400 + yearOfEra) / 400 = era := by omega
  have hrem : ((era * 400 + yearOfEra) % 400).toNat = yearOfEra := by omega
  have hsum : (153 * month + 2) / 5 + (dayOfYear - (153 * month + 2) / 5 + 1) = dayOfYear + 1 := by
    omega
  unfold civilOf
  rw [← hmonth]
  dsimp only
  split_ifs with hspring
  · have hmarch : ¬ month + 3 ≤ 2 := by omega
    unfold daysOfCivil
    simp only [hmarch, if_false, hdiv, hrem, Nat.add_sub_cancel, hsum]
    push_cast
    ring
  · have hwinter : month - 9 ≤ 2 := by omega
    have hback : month - 9 + 9 = month := by omega
    unfold daysOfCivil
    simp only [hwinter, if_true, add_sub_cancel_right, hdiv, hrem, hback, hsum]
    push_cast
    ring

/-- The parts of a day. -/
theorem civilOfDays_eq (days : ℤ) : ∃ era : ℤ, ∃ yearOfEra dayOfYear : ℕ, yearOfEra < 400 ∧
    dayOfYear < 366 ∧ civilOfDays days = civilOf era yearOfEra dayOfYear ∧
    days = era * 146097 + daysBefore yearOfEra + dayOfYear - 719468 := by
  obtain ⟨day, hday⟩ : ∃ day, day = ((days + 719468) % 146097).toNat := ⟨_, rfl⟩
  obtain ⟨hyear, hbefore, hafter⟩ := @yearOfDay_bounds day (by omega)
  refine ⟨(days + 719468) / 146097, yearOfDay day, day - daysBefore (yearOfDay day), hyear,
    by omega, ?_, by omega⟩
  rw [civilOfDays, ← hday]

theorem daysOfCivil_civilOfDays (days : ℤ) : daysOfCivil (civilOfDays days) = days := by
  obtain ⟨era, yearOfEra, dayOfYear, hyear, hday, heq, hdays⟩ := civilOfDays_eq days
  rw [heq, daysOfCivil_civilOf era hyear hday, ← hdays]

/-! ### Texts -/

def yearText (year : ℤ) : List Char :=
  if 0 ≤ year ∧ year ≤ 9999 then padded 10 4 year.toNat
  else (if year < 0 then '-' else '+') :: padded 10 6 year.natAbs

/-- The time of the day, in milliseconds. -/
def timeText (time : ℕ) : List Char :=
  padded 10 2 (time / 3600000) ++ ':' :: (padded 10 2 (time / 60000 % 60) ++ ':' ::
    (padded 10 2 (time / 1000 % 60) ++ '.' :: (padded 10 3 (time % 1000) ++ ['Z'])))

def dateText (date : CivilDate) : List Char :=
  yearText date.year ++ '-' :: (padded 10 2 date.month ++ '-' :: padded 10 2 date.day)

def toISOString (time : ℤ) : String :=
  String.ofList (dateText (civilOfDays (time / 86400000)) ++
    'T' :: timeText (time % 86400000).toNat)

/-! ### Reading a text -/

/-- A number of the given number of digits. -/
def readField (length : ℕ) (text : List Char) : Option (ℕ × List Char) :=
  if length ≤ text.length ∧ (text.take length).all Char.isDigit then
    some (readDigits 10 0 (text.take length), text.drop length)
  else none

def readMark (mark : Char) : List Char → Option (List Char)
  | [] => none
  | c :: rest => if c = mark then some rest else none

def readYear (text : List Char) : Option (ℤ × List Char) :=
  if text.head? = some '+' then
    (readField 6 text.tail).map fun (year, rest) => ((year : ℤ), rest)
  else if text.head? = some '-' then
    (readField 6 text.tail).map fun (year, rest) => (-(year : ℤ), rest)
  else (readField 4 text).map fun (year, rest) => ((year : ℤ), rest)

def readDate (text : List Char) : Option (CivilDate × List Char) := do
  let (year, rest) ← readYear text
  let rest ← readMark '-' rest
  let (month, rest) ← readField 2 rest
  let rest ← readMark '-' rest
  let (day, rest) ← readField 2 rest
  return (⟨year, month, day⟩, rest)

def readTime (text : List Char) : Option ℕ := do
  let (hours, rest) ← readField 2 text
  let rest ← readMark ':' rest
  let (minutes, rest) ← readField 2 rest
  let rest ← readMark ':' rest
  let (seconds, rest) ← readField 2 rest
  let rest ← readMark '.' rest
  let (milliseconds, rest) ← readField 3 rest
  let rest ← readMark 'Z' rest
  if rest = [] then some (hours * 3600000 + minutes * 60000 + seconds * 1000 + milliseconds)
  else none

/-- The time of a text of this form; fields are not checked to be in range. -/
def readISOString (text : String) : Option ℤ := do
  let (date, rest) ← readDate text.toList
  let rest ← readMark 'T' rest
  let time ← readTime rest
  return daysOfCivil date * 86400000 + time

theorem isDigit_of_mem_padded {length n : ℕ} : ∀ c ∈ padded 10 length n, c.isDigit = true := by
  intro c hc
  rw [padded, List.leftpad] at hc
  rcases List.mem_append.1 hc with hzero | hdigit
  · rw [List.eq_of_mem_replicate hzero]
    rfl
  · exact Nat.isDigit_of_mem_toDigits (by omega) (by omega) hdigit

theorem readField_padded {length n : ℕ} (hlength : 0 < length) (hn : n < 10 ^ length)
    (rest : List Char) : readField length (padded 10 length n ++ rest) = some (n, rest) := by
  have hsize := @length_padded 10 (by omega) length n hlength hn
  have htake : (padded 10 length n ++ rest).take length = padded 10 length n :=
    List.take_left' hsize
  have hdrop : (padded 10 length n ++ rest).drop length = rest := List.drop_left' hsize
  have hle : length ≤ (padded 10 length n ++ rest).length := by
    rw [List.length_append]
    omega
  rw [readField, htake, hdrop, if_pos ⟨hle, List.all_eq_true.2 isDigit_of_mem_padded⟩,
    readDigits_padded (by omega) (by omega)]

theorem head?_padded_ne {length n : ℕ} (mark : Char) (hlength : 0 < length) (hn : n < 10 ^ length)
    (hmark : mark.isDigit = false) (rest : List Char) :
    (padded 10 length n ++ rest).head? ≠ some mark := by
  have hsize := @length_padded 10 (by omega) length n hlength hn
  intro hhead
  cases hdigits : padded 10 length n with
  | nil =>
    rw [hdigits, List.length_nil] at hsize
    omega
  | cons c digits =>
    rw [hdigits, List.cons_append, List.head?_cons, Option.some.injEq] at hhead
    have hc : c.isDigit = true := isDigit_of_mem_padded c (hdigits ▸ List.mem_cons_self ..)
    rw [hhead, hmark] at hc
    cases hc

theorem readYear_yearText {year : ℤ} (hlo : -999999 ≤ year) (hhi : year ≤ 999999)
    (rest : List Char) : readYear (yearText year ++ rest) = some (year, rest) := by
  unfold yearText
  split_ifs with hplain hneg
  · have hyear : year.toNat < 10 ^ 4 := by omega
    have hplus := head?_padded_ne '+' (by omega) hyear rfl rest
    have hminus := head?_padded_ne '-' (by omega) hyear rfl rest
    rw [readYear, if_neg hplus, if_neg hminus, readField_padded (by omega) hyear]
    simp only [Option.map_some, Option.some.injEq, Prod.mk.injEq, and_true]
    omega
  · have hyear : year.natAbs < 10 ^ 6 := by omega
    rw [readYear, List.cons_append, List.head?_cons, List.tail_cons, if_neg (by decide), if_pos rfl,
      readField_padded (by omega) hyear]
    simp only [Option.map_some, Option.some.injEq, Prod.mk.injEq, and_true]
    omega
  · have hyear : year.natAbs < 10 ^ 6 := by omega
    rw [readYear, List.cons_append, List.head?_cons, List.tail_cons, if_pos rfl,
      readField_padded (by omega) hyear]
    simp only [Option.map_some, Option.some.injEq, Prod.mk.injEq, and_true]
    omega

@[simp] theorem readMark_cons (mark : Char) (rest : List Char) :
    readMark mark (mark :: rest) = some rest := if_pos rfl

theorem readDate_dateText {date : CivilDate} (hlo : -999999 ≤ date.year) (hhi : date.year ≤ 999999)
    (hmonth : date.month ≤ 12) (hday : date.day ≤ 31) (rest : List Char) :
    readDate (dateText date ++ rest) = some (date, rest) := by
  unfold dateText readDate
  rw [List.append_assoc, readYear_yearText hlo hhi]
  simp only [Option.bind_eq_bind, Option.bind_some, List.cons_append, List.append_assoc,
    readMark_cons]
  rw [readField_padded (by omega) (by omega)]
  simp only [Option.bind_some, readMark_cons]
  rw [readField_padded (by omega) (by omega)]
  rfl

theorem readTime_timeText {time : ℕ} (h : time < 86400000) :
    readTime (timeText time) = some time := by
  unfold timeText readTime
  rw [readField_padded (by omega) (by omega)]
  simp only [Option.bind_eq_bind, Option.bind_some, readMark_cons]
  rw [readField_padded (by omega) (by omega)]
  simp only [Option.bind_some, readMark_cons]
  rw [readField_padded (by omega) (by omega)]
  simp only [Option.bind_some, readMark_cons]
  rw [readField_padded (by omega) (by omega)]
  simp only [Option.bind_some, readMark_cons, if_true, Option.some.injEq]
  omega

/-- Times of a date as the language has it, a hundred million days around the beginning. -/
abbrev IsTime (time : ℤ) : Prop := -8640000000000000 ≤ time ∧ time ≤ 8640000000000000

theorem readISOString_toISOString {time : ℤ} (h : IsTime time) :
    readISOString (toISOString time) = some time := by
  obtain ⟨days, hdays⟩ : ∃ days, days = time / 86400000 := ⟨_, rfl⟩
  have hbounds : -100000000 ≤ days ∧ days ≤ 100000000 := by omega
  obtain ⟨era, yearOfEra, dayOfYear, hyear, hday, heq, hsum⟩ := civilOfDays_eq days
  have hbefore : daysBefore yearOfEra ≤ 146097 := by
    unfold daysBefore
    omega
  have hyears : -999999 ≤ (civilOfDays days).year ∧ (civilOfDays days).year ≤ 999999 := by
    rw [heq, civilOf]
    split_ifs
    · exact ⟨by dsimp only; omega, by dsimp only; omega⟩
    · exact ⟨by dsimp only; omega, by dsimp only; omega⟩
  obtain ⟨hmonth, hdayOfMonth⟩ := civilOf_bounds era yearOfEra hday
  rw [readISOString, toISOString, String.toList_ofList, ← hdays,
    readDate_dateText hyears.1 hyears.2 (heq ▸ hmonth) (heq ▸ hdayOfMonth)]
  simp only [Option.bind_eq_bind, Option.bind_some, readMark_cons]
  rw [readTime_timeText (by omega)]
  simp only [Option.bind_some, Option.pure_def, daysOfCivil_civilOfDays, Option.some.injEq]
  omega

example : toISOString 951782399999 = "2000-02-28T23:59:59.999Z" := by decide

end IsoTime
