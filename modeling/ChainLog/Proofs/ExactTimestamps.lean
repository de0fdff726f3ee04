/-
# Which timestamps have a text

A timestamp has a text exactly if its second is in one of the years 1 to 9999.  The text denotes the
timestamp, so no two timestamps share one, and each of the three bounds that a second can miss has
its own error (`timestamps_exact`).

The years of a second are those between whose first and last seconds it is (`inYears_iff`), so all
bounds are said in seconds.
-/
import ChainLog.Proofs.TimestampText

namespace ChainLog.Time

set_option autoImplicit false

variable {seconds first last year ns : Int}

/-! ## Years of a second -/

/-- The second is in one of the years from the first to the last. -/
def InYears (first last seconds : Int) : Prop :=
  Stamp.toSeconds ⟨⟨first, 1, 1⟩, 0, 0, 0⟩ ≤ seconds ∧
    seconds ≤ Stamp.toSeconds ⟨⟨last, 12, 31⟩, 23, 59, 59⟩

instance (first last seconds : Int) : Decidable (InYears first last seconds) :=
  inferInstanceAs (Decidable (_ ∧ _))

theorem toDays_newYear (year : Int) : Date.toDays ⟨year, 1, 1⟩ = daysBeforeYear year := by
  have none_before : daysIn (monthLengths (isLeap year)) 0 = 0 := rfl
  simp only [Date.toDays, Nat.sub_self, none_before]
  omega

/-- The last day of a year is the one before the next year begins. -/
theorem toDays_newYearsEve (year : Int) :
    Date.toDays ⟨year, 12, 31⟩ + 1 = daysBeforeYear (year + 1) := by
  have before : daysIn (monthLengths (isLeap year)) 11 + 31 = 365 + leapDay (isLeap year) := by
    cases isLeap year <;> rfl
  rw [daysBeforeYear_succ]
  simp only [Date.toDays, Nat.reduceSub]
  omega

theorem inYears_iff : InYears first last seconds ↔
    first ≤ (Stamp.ofSeconds seconds).date.year ∧ (Stamp.ofSeconds seconds).date.year ≤ last := by
  have begins := toDays_newYear first
  have ends := toDays_newYearsEve last
  have late : (Stamp.ofSeconds seconds).date.year ≤ last ↔
      ¬ last + 1 ≤ (Stamp.ofSeconds seconds).date.year := by omega
  rw [late, le_year_ofSeconds_iff, le_year_ofSeconds_iff]
  simp only [InYears, Stamp.toSeconds]
  omega

/-- The years that can be counted from 1900 in 32 bits. -/
def InCalendar (seconds : Int) : Prop := InYears (1900 - 0x80000000) (1900 + 0x7fffffff) seconds

instance (seconds : Int) : Decidable (InCalendar seconds) :=
  inferInstanceAs (Decidable (InYears _ _ _))

/-- The clock reaches beyond the calendar. -/
theorem InCalendar.isWord (inside : InCalendar seconds) : IsWord seconds := by
  have begins := toDays_newYear (1900 - 0x80000000)
  have ends := toDays_newYearsEve (1900 + 0x7fffffff)
  obtain ⟨first, last⟩ := inside
  simp only [Stamp.toSeconds, daysBeforeYear, epochDay] at first last begins ends
  exact ⟨by omega, by omega⟩

/-- The calendar reaches beyond the years that are written. -/
theorem InYears.inCalendar (inside : InYears 1 9999 seconds) : InCalendar seconds := by
  obtain ⟨first, last⟩ := inYears_iff.1 inside
  exact inYears_iff.2 ⟨by omega, by omega⟩

/-- The three bounds, one behind the other. -/
theorem ofSeconds?_eq (seconds : Int) : Stamp.ofSeconds? seconds =
    if ¬ IsWord seconds then .error .beyondClock
    else if ¬ InCalendar seconds then .error .beyondCalendar
    else if ¬ InYears 1 9999 seconds then
      .error (.yearOutOfRange ((Stamp.ofSeconds seconds).date.year.bmod 0x100000000))
    else .ok (Stamp.ofSeconds seconds) := by
  have calendar : ¬ InCalendar seconds ↔ (Stamp.ofSeconds seconds).date.year - 1900 < -0x80000000 ∨
      0x80000000 ≤ (Stamp.ofSeconds seconds).date.year - 1900 := by
    rw [InCalendar, inYears_iff]
    omega
  have years : ¬ InYears 1 9999 seconds ↔ (Stamp.ofSeconds seconds).date.year < 1 ∨
      9999 < (Stamp.ofSeconds seconds).date.year := by
    rw [inYears_iff]
    omega
  simp only [Stamp.ofSeconds?, calendar, years]

/-! ## Texts -/

theorem format_eq (ns : Int) : format ns = (Stamp.ofSeconds? (ns / 1000000000)).map fun s =>
    String.ofList (nanosChars s (ns % 1000000000).toNat) := by
  unfold format formatChars
  cases Stamp.ofSeconds? (ns / 1000000000) <;> rfl

/-- All that can come of formatting: one of the three bounds is missed, or there is a text. -/
theorem format_cases (ns : Int) :
    (¬ IsWord (ns / 1000000000) ∧ format ns = .error .beyondClock) ∨
    (IsWord (ns / 1000000000) ∧ ¬ InCalendar (ns / 1000000000) ∧
      format ns = .error .beyondCalendar) ∨
    (InCalendar (ns / 1000000000) ∧ ¬ InYears 1 9999 (ns / 1000000000) ∧
      ∃ y, format ns = .error (.yearOutOfRange y)) ∨
    (InYears 1 9999 (ns / 1000000000) ∧
      ∃ text, format ns = .ok text ∧ denoted? text.toList = some ns) := by
  by_cases years : InYears 1 9999 (ns / 1000000000)
  · obtain ⟨least, most⟩ := inYears_iff.1 years
    exact .inr (.inr (.inr ⟨years, format_denotes least most⟩))
  · rw [format_eq, ofSeconds?_eq]
    by_cases calendar : InCalendar (ns / 1000000000)
    · rw [if_neg (not_not_intro calendar.isWord), if_neg (not_not_intro calendar), if_pos years]
      exact .inr (.inr (.inl ⟨calendar, years, _, rfl⟩))
    · by_cases word : IsWord (ns / 1000000000)
      · rw [if_neg (not_not_intro word), if_pos calendar]
        exact .inr (.inl ⟨word, calendar, rfl⟩)
      · rw [if_pos word]
        exact .inl ⟨word, rfl⟩

theorem format_denotes_of_ok {text : String} (formatted : format ns = .ok text) :
    denoted? text.toList = some ns := by
  rcases format_cases ns with ⟨-, e⟩ | ⟨-, -, e⟩ | ⟨-, -, y, e⟩ | ⟨-, x, same, denoted⟩
  · cases formatted.symm.trans e
  · cases formatted.symm.trans e
  · cases formatted.symm.trans e
  · rwa [Except.ok.inj (formatted.symm.trans same)]

/-- **Timestamps are exact.**  A timestamp has a text exactly if its second is in the years 1 to 9999,
and the text denotes it, so no other timestamp has that text.  The others have none because their
second does not fit 64 bits, or does and has a year that does not fit 32 bits, or has a year that
fits but is not written. -/
theorem timestamps_exact (ns : Int) :
    ((∃ text, format ns = .ok text) ↔ InYears 1 9999 (ns / 1000000000)) ∧
    (∀ text, format ns = .ok text → denoted? text.toList = some ns ∧
      ∀ other, format other = .ok text → other = ns) ∧
    (format ns = .error .beyondClock ↔ ¬ IsWord (ns / 1000000000)) ∧
    (format ns = .error .beyondCalendar ↔
      IsWord (ns / 1000000000) ∧ ¬ InCalendar (ns / 1000000000)) ∧
    ((∃ y, format ns = .error (.yearOutOfRange y)) ↔
      InCalendar (ns / 1000000000) ∧ ¬ InYears 1 9999 (ns / 1000000000)) := by
  have calendar : InYears 1 9999 (ns / 1000000000) → InCalendar (ns / 1000000000) :=
    InYears.inCalendar
  have word : InCalendar (ns / 1000000000) → IsWord (ns / 1000000000) := InCalendar.isWord
  refine ⟨?_, fun text formatted => ⟨format_denotes_of_ok formatted, fun other same => ?_⟩, ?_⟩
  · rcases format_cases ns with ⟨outside, e⟩ | ⟨-, outside, e⟩ | ⟨-, outside, y, e⟩ |
      ⟨inside, x, formatted, -⟩
    · simp [e, mt calendar (mt word outside)]
    · simp [e, mt calendar outside]
    · simp [e, outside]
    · simp [formatted, inside]
  · have first := format_denotes_of_ok formatted
    rw [format_denotes_of_ok same] at first
    exact Option.some.inj first
  · rcases format_cases ns with ⟨outside, e⟩ | ⟨inside, outside, e⟩ | ⟨inside, outside, y, e⟩ |
      ⟨inside, x, formatted, -⟩
    · simp [e, outside, mt word outside]
    · simp [e, outside, inside]
    · simp [e, outside, inside, word inside]
    · simp [formatted, inside, calendar inside, word (calendar inside)]

/-- The last nanosecond before the year 1970, and the nanosecond before the first that has a text. -/
theorem timestamps_exact_at_ends :
    (∃ text, format (-1) = .ok text ∧ denoted? text.toList = some (-1)) ∧
      ∃ y, format (-62135596800000000001) = .error (.yearOutOfRange y) := by
  obtain ⟨written, denotes, -⟩ := timestamps_exact (-1)
  obtain ⟨text, formatted⟩ := written.2 (by decide +kernel)
  refine ⟨⟨text, formatted, (denotes text formatted).1⟩, ?_⟩
  exact (timestamps_exact (-62135596800000000001)).2.2.2.2.2 (by decide +kernel)

/-- A second that the clock has and the calendar has not: there is no text, the second fits 64 bits,
and what is wrong is not said to be the year. -/
theorem clock_beyond_calendar :
    let ns : Int := 67768036191676800000000000
    IsWord (ns / 1000000000) ∧ ¬ InYears 1 9999 (ns / 1000000000) ∧
      format ns = .error .beyondCalendar ∧
      format ns ≠ .error .beyondClock ∧ ∀ y, format ns ≠ .error (.yearOutOfRange y) := by
  have formatted : format 67768036191676800000000000 = .error .beyondCalendar := rfl
  refine ⟨by decide, by decide +kernel, formatted, ?_, fun y => ?_⟩
  · rw [formatted]
    simp
  · rw [formatted]
    simp

end ChainLog.Time
