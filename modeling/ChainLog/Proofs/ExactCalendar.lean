/-
# The calendar is exact

Splitting a day count into a date loses nothing: the date exists in its month and year
(`exists_ofDays`), and counting the days before it gives the day count back (`toDays_ofDays`), for
all days, also those before year 1.  The year of a day is the last that has begun by then
(`le_year_ofDays_iff`).

A day count is split in two steps, into a year and a day of that year (`yearAndDay_exact`), and that
into a month and a day (`monthAndDay_exact`).
-/
import ChainLog.Time.Calendar

namespace ChainLog.Time

set_option autoImplicit false

variable {year days : Int}

/-- A day more in leap years. -/
def leapDay (leap : Bool) : Nat := if leap then 1 else 0

theorem isLeap_iff : isLeap year = true ↔ year % 4 = 0 ∧ (year % 100 ≠ 0 ∨ year % 400 = 0) := by
  simp [isLeap]

theorem leapDay_eq (year : Int) : (leapDay (isLeap year) : Int) =
    if year % 4 = 0 ∧ (year % 100 ≠ 0 ∨ year % 400 = 0) then 1 else 0 := by
  by_cases leap : isLeap year = true
  · rw [if_pos (isLeap_iff.1 leap), leap]
    rfl
  · rw [if_neg (mt isLeap_iff.2 leap), leapDay, if_neg leap]
    rfl

/-- The year that follows begins after all days of a year. -/
theorem daysBeforeYear_succ (year : Int) :
    daysBeforeYear (year + 1) = daysBeforeYear year + 365 + leapDay (isLeap year) := by
  rw [leapDay_eq]
  unfold daysBeforeYear
  omega

/-- Later years do not begin earlier. -/
theorem daysBeforeYear_mono {a b : Int} (h : a ≤ b) : daysBeforeYear a ≤ daysBeforeYear b := by
  unfold daysBeforeYear
  omega

/-- The days before a year by the cycles of 400, 100 and 4 years that are over, and the years since. -/
theorem daysBeforeYear_of_cycles {cycle century four one : Int} (inCycle : 0 ≤ century ∧ century ≤ 3)
    (inCentury : 0 ≤ four ∧ four ≤ 24) (inFour : 0 ≤ one ∧ one ≤ 3) :
    daysBeforeYear (400 * cycle + 100 * century + 4 * four + one + 1) =
      146097 * cycle + 36524 * century + 1461 * four + 365 * one := by
  unfold daysBeforeYear
  omega

/-! ## Years -/

/-- What the quotients of the cycles come to: only the last year of a cycle of four can have a day
more, and the last of a century only if it is the last of 400. -/
theorem yearAndDay_cycles (days : Int) :
    ∃ cycle century four one : Int, ∃ rest : Nat,
      yearAndDay days = (400 * cycle + 100 * century + 4 * four + one + 1, rest) ∧
      (0 ≤ century ∧ century ≤ 3) ∧ (0 ≤ four ∧ four ≤ 24) ∧ (0 ≤ one ∧ one ≤ 3) ∧
      days = 146097 * cycle + 36524 * century + 1461 * four + 365 * one + rest ∧
      (rest < 365 ∨ rest = 365 ∧ one = 3 ∧ (four < 24 ∨ century = 3)) := by
  refine ⟨_, _, _, _, _, rfl, ?_, ?_, ?_, ?_, ?_⟩ <;> omega

/-- The year of a day, and what is left of it. -/
theorem yearAndDay_exact (days : Int) :
    days = daysBeforeYear (yearAndDay days).1 + (yearAndDay days).2 ∧
      (yearAndDay days).2 < 365 + leapDay (isLeap (yearAndDay days).1) := by
  obtain ⟨cycle, century, four, one, rest, split, inCycle, inCentury, inFour, whole, short⟩ :=
    yearAndDay_cycles days
  rw [split, daysBeforeYear_of_cycles inCycle inCentury inFour]
  have leap := leapDay_eq (400 * cycle + 100 * century + 4 * four + one + 1)
  refine ⟨whole, ?_⟩
  show rest < 365 + leapDay (isLeap (400 * cycle + 100 * century + 4 * four + one + 1))
  split at leap <;> omega

/-! ## Months -/

/-- The month of a day, and the day in it, in months of the lengths given. -/
theorem monthAndDay_exact {lengths : List Nat} {rest : Nat} (month : Nat)
    (inside : rest < daysIn lengths lengths.length) :
    ∃ before length day : Nat, monthAndDay lengths month rest = (month + before, day) ∧
      lengths[before]? = some length ∧ 1 ≤ day ∧ day ≤ length ∧
      rest + 1 = daysIn lengths before + day := by
  induction lengths generalizing month rest with
  | nil => cases inside
  | cons length later ih =>
    rw [monthAndDay]
    split
    · rename_i first
      exact ⟨0, length, rest + 1, rfl, rfl, by omega, by omega, by simp [daysIn]⟩
    · rename_i beyond
      rw [List.length_cons, daysIn] at inside
      obtain ⟨before, length', day, same, found, least, most, whole⟩ :=
        ih (month + 1) (show rest - length < daysIn later later.length by omega)
      refine ⟨before + 1, length', day, ?_, found, least, most, ?_⟩
      · rw [same, Nat.add_right_comm, Nat.add_assoc]
      · rw [daysIn]
        omega

/-- The months of a year have all its days. -/
theorem daysIn_monthLengths (leap : Bool) :
    daysIn (monthLengths leap) (monthLengths leap).length = 365 + leapDay leap := by
  cases leap <;> rfl

/-! ## Dates -/

theorem ofDays_exact (days : Int) : (Date.ofDays days).Exists ∧ (Date.ofDays days).toDays = days := by
  obtain ⟨whole, short⟩ := yearAndDay_exact days
  rw [← daysIn_monthLengths] at short
  obtain ⟨before, length, day, same, found, least, most, rest⟩ := monthAndDay_exact 1 short
  have date : Date.ofDays days = ⟨(yearAndDay days).1, 1 + before, day⟩ := by
    unfold Date.ofDays
    simp only [same]
  have month : before < 12 := (List.getElem?_eq_some_iff.1 found).1
  rw [date]
  unfold Date.Exists Date.toDays
  simp only [Nat.add_sub_cancel_left, found]
  refine ⟨⟨by omega, by omega, least, fun length' member => ?_⟩, by omega⟩
  obtain rfl := Option.some.inj member
  exact most

theorem exists_ofDays (days : Int) : (Date.ofDays days).Exists := (ofDays_exact days).1

theorem toDays_ofDays (days : Int) : (Date.ofDays days).toDays = days := (ofDays_exact days).2

theorem year_ofDays (days : Int) : (Date.ofDays days).year = (yearAndDay days).1 := rfl

/-- A day is in a year or a later one exactly if it is not before the first day of that year. -/
theorem le_year_ofDays_iff : year ≤ (Date.ofDays days).year ↔ daysBeforeYear year ≤ days := by
  obtain ⟨whole, short⟩ := yearAndDay_exact days
  have next := daysBeforeYear_succ (yearAndDay days).1
  rw [year_ofDays]
  constructor
  · intro reached
    have := daysBeforeYear_mono reached
    omega
  · intro reached
    rcases Int.lt_or_le (yearAndDay days).1 year with earlier | done
    · have := daysBeforeYear_mono (show (yearAndDay days).1 + 1 ≤ year from earlier)
      omega
    · exact done

end ChainLog.Time
