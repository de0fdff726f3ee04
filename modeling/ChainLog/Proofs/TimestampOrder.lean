/-
# The order of timestamps

Timestamps of the years 1000 to 9999 have texts of thirty characters, and later ones have larger
texts (`Time.format_lt_iff`).  The text writes a single number in fields of a fixed width, the date as
the number that its digits spell and then the nanoseconds of the day (`Time.ordinal`), and this
number grows with the timestamp: later days have later dates (`Time.Date.number_lt`).
-/
import ChainLog.Proofs.ExactTimestamps
import ChainLog.Proofs.TextOrder

namespace ChainLog

set_option autoImplicit false

open Text

namespace Time

variable {m n : Int} {rest rest' : Nat}

/-! ## Later days -/

/-- The month of a day is not before the first month there is. -/
theorem le_monthAndDay (lengths : List Nat) (month rest : Nat) :
    month ≤ (monthAndDay lengths month rest).1 := by
  induction lengths generalizing month rest with
  | nil => exact Nat.le_refl month
  | cons length later ih =>
    rw [monthAndDay]
    split
    · exact Nat.le_refl month
    · exact Nat.le_of_succ_le (ih (month + 1) (rest - length))

/-- A later day of a year is in a later month, or later in its month. -/
theorem monthAndDay_lt (lengths : List Nat) (month : Nat) (before : rest < rest') :
    (monthAndDay lengths month rest).1 < (monthAndDay lengths month rest').1 ∨
      (monthAndDay lengths month rest).1 = (monthAndDay lengths month rest').1 ∧
        (monthAndDay lengths month rest).2 < (monthAndDay lengths month rest').2 := by
  induction lengths generalizing month rest rest' with
  | nil => exact .inr ⟨rfl, Nat.succ_lt_succ before⟩
  | cons length later ih =>
    rw [monthAndDay, monthAndDay]
    by_cases first : rest < length
    · by_cases also : rest' < length
      · rw [if_pos first, if_pos also]
        exact .inr ⟨rfl, Nat.succ_lt_succ before⟩
      · rw [if_pos first, if_neg also]
        exact .inl (le_monthAndDay later (month + 1) (rest' - length))
    · rw [if_neg first, if_neg (by omega)]
      exact ih (month + 1) (by omega)

/-- A later day is in a later year, or the same year's later part. -/
theorem yearAndDay_lt (before : m < n) : (yearAndDay m).1 < (yearAndDay n).1 ∨
    (yearAndDay m).1 = (yearAndDay n).1 ∧ (yearAndDay m).2 < (yearAndDay n).2 := by
  have begun : (yearAndDay m).1 ≤ (yearAndDay n).1 := by
    rw [← year_ofDays n, le_year_ofDays_iff]
    exact Int.le_trans (le_year_ofDays_iff.1 (Int.le_refl _)) (Int.le_of_lt before)
  rcases Int.lt_or_eq_of_le begun with earlier | same
  · exact .inl earlier
  · have first := (yearAndDay_exact m).1
    have second := (yearAndDay_exact n).1
    rw [same] at first
    exact .inr ⟨same, by omega⟩

/-- A date as the number that its digits spell. -/
def Date.number (d : Date) : Nat := (d.year.toNat * 100 + d.month) * 100 + d.day

/-- Later days have larger dates. -/
theorem Date.number_lt (before : m < n) (year : 0 ≤ (Date.ofDays m).year) :
    (Date.ofDays m).number < (Date.ofDays n).number := by
  have real := exists_ofDays m
  have day := real.day_le
  obtain ⟨-, month, -, -⟩ := real
  rw [year_ofDays] at year
  unfold number
  rcases yearAndDay_lt before with earlier | ⟨same, within⟩
  · rw [← year_ofDays, ← year_ofDays n] at earlier
    rw [← year_ofDays] at year
    omega
  · have later := monthAndDay_lt (monthLengths (isLeap (yearAndDay n).1)) 1 within
    simp only [Date.ofDays, same] at month day later ⊢
    omega

/-! ## Texts -/

/-- A timestamp as a number that its text writes digit by digit: the date, and behind it the
nanoseconds of the day. -/
def ordinal (ns : Int) : Nat :=
  (Date.ofDays (ns / 86400000000000 + epochDay)).number * 86400000000000 +
    (ns % 86400000000000).toNat

/-- The fields of a timestamp's text, from its number. -/
def fields (n : Nat) : List Char :=
  Padded.digits 4 (n / 864000000000000000 % 10000) ++
    '-' :: (Padded.digits 2 (n / 8640000000000000 % 100) ++
    '-' :: (Padded.digits 2 (n / 86400000000000 % 100) ++
    'T' :: (Padded.digits 2 (n / 3600000000000 % 24) ++
    ':' :: (Padded.digits 2 (n / 60000000000 % 60) ++
    ':' :: (Padded.digits 2 (n / 1000000000 % 60) ++
    '.' :: (Padded.digits 9 (n % 1000000000) ++ ['Z']))))))

theorem ranks_fields : Ranks 8640000000000000000000 fields := by
  have fraction : Ranks 1000000000 fun n => Padded.digits 9 (n % 1000000000) ++ ['Z'] := by
    have both := (ranks_field (k := 1000000000) (w := 9) (by decide) (by decide)).append
      (ranks_const ['Z']) (by decide) fun m n => by rw [Padded.length_digits, Padded.length_digits]
    simpa only [Nat.div_one, Nat.one_mul] using both
  have second := fraction.field (j := 60) (w := 2) '.' (by decide) (by decide) (by decide)
  have minute := second.field (j := 60) (w := 2) ':' (by decide) (by decide) (by decide)
  have hour := minute.field (j := 24) (w := 2) ':' (by decide) (by decide) (by decide)
  have day := hour.field (j := 100) (w := 2) 'T' (by decide) (by decide) (by decide)
  have month := day.field (j := 100) (w := 2) '-' (by decide) (by decide) (by decide)
  exact month.field (j := 10000) (w := 4) '-' (by decide) (by decide) (by decide)

theorem length_fields (n : Nat) : (fields n).length = 30 := by
  simp [fields, Padded.length_digits]

/-- The fields of a number are those of the date and of the time of day that it is made of. -/
theorem fields_of_parts {d : Date} {x : Nat} (year : d.year.toNat < 10000) (month : d.month < 100)
    (day : d.day < 100) (inDay : x < 86400000000000) :
    fields (d.number * 86400000000000 + x) =
      Padded.digits 4 d.year.toNat ++ '-' :: (Padded.digits 2 d.month ++
      '-' :: (Padded.digits 2 d.day ++ 'T' :: (Padded.digits 2 (x / 1000000000 / 3600) ++
      ':' :: (Padded.digits 2 (x / 1000000000 / 60 % 60) ++
      ':' :: (Padded.digits 2 (x / 1000000000 % 60) ++
      '.' :: (Padded.digits 9 (x % 1000000000) ++ ['Z'])))))) := by
  have date (n : Nat) : (n * 86400000000000 + x) / 864000000000000000 % 10000 = n / 10000 % 10000 ∧
      (n * 86400000000000 + x) / 8640000000000000 % 100 = n / 100 % 100 ∧
      (n * 86400000000000 + x) / 86400000000000 % 100 = n % 100 := ⟨by omega, by omega, by omega⟩
  have time (n : Nat) : (n * 86400000000000 + x) / 3600000000000 % 24 = x / 1000000000 / 3600 ∧
      (n * 86400000000000 + x) / 60000000000 % 60 = x / 1000000000 / 60 % 60 ∧
      (n * 86400000000000 + x) / 1000000000 % 60 = x / 1000000000 % 60 ∧
      (n * 86400000000000 + x) % 1000000000 = x % 1000000000 :=
    ⟨by omega, by omega, by omega, by omega⟩
  have digits : d.number / 10000 % 10000 = d.year.toNat ∧ d.number / 100 % 100 = d.month ∧
      d.number % 100 = d.day := by
    unfold Date.number
    exact ⟨by omega, by omega, by omega⟩
  simp only [fields, date, time, digits]

/-- In the years of four digits the text of a timestamp has the fields of its number. -/
theorem nanosChars_eq {ns : Int} (least : 1000 ≤ (Stamp.ofSeconds (ns / 1000000000)).date.year)
    (most : (Stamp.ofSeconds (ns / 1000000000)).date.year ≤ 9999) :
    nanosChars (Stamp.ofSeconds (ns / 1000000000)) (ns % 1000000000).toNat = fields (ordinal ns) := by
  have days : ns / 1000000000 / 86400 = ns / 86400000000000 := by omega
  have seconds : (ns / 1000000000 % 86400).toNat = (ns % 86400000000000).toNat / 1000000000 := by omega
  have fraction : (ns % 1000000000).toNat = (ns % 86400000000000).toNat % 1000000000 := by omega
  have inDay : (ns % 86400000000000).toNat < 86400000000000 := by omega
  have real := exists_ofDays (ns / 86400000000000 + epochDay)
  simp only [Stamp.ofSeconds, days] at least most
  have front : (toString (Date.ofDays (ns / 86400000000000 + epochDay)).year).toList =
      Padded.digits 4 (Date.ofDays (ns / 86400000000000 + epochDay)).year.toNat := by
    obtain ⟨y, year⟩ := Int.eq_ofNat_of_zero_le (Int.le_trans (by decide) least)
    rw [year] at least most ⊢
    exact Nat.toList_repr.trans (Padded.toDigits_eq_digits (by omega) (by omega))
  rw [ordinal, fields_of_parts (by omega)
    (Nat.lt_of_le_of_lt real.2.1 (by decide)) (Nat.lt_of_le_of_lt real.day_le (by decide)) inDay]
  simp only [nanosChars, Stamp.ofSeconds, Stamp.afterYear, days, seconds, fraction, front,
    List.append_assoc, List.cons_append]

/-- In the years of four digits every timestamp has a text, of thirty characters. -/
theorem format_of_inYears {ns : Int} (inside : InYears 1000 9999 (ns / 1000000000)) :
    format ns = .ok (String.ofList (fields (ordinal ns))) := by
  obtain ⟨least, most⟩ := inYears_iff.1 inside
  have written : InYears 1 9999 (ns / 1000000000) := inYears_iff.2 ⟨by omega, most⟩
  rw [format_eq, ofSeconds?_eq, if_neg (not_not_intro written.inCalendar.isWord),
    if_neg (not_not_intro written.inCalendar), if_neg (not_not_intro written), ← nanosChars_eq least most]
  rfl

/-- Later timestamps have larger numbers. -/
theorem ordinal_lt {first second : Int} (inside : InYears 1000 9999 (first / 1000000000))
    (before : first < second) : ordinal first < ordinal second := by
  have days : first / 1000000000 / 86400 = first / 86400000000000 := by omega
  have year := (inYears_iff.1 inside).1
  simp only [Stamp.ofSeconds, days] at year
  unfold ordinal
  rcases Int.lt_or_eq_of_le (show first / 86400000000000 ≤ second / 86400000000000 by omega) with
    earlier | same
  · have dates := Date.number_lt (m := first / 86400000000000 + epochDay)
      (n := second / 86400000000000 + epochDay) (by omega) (by omega)
    omega
  · rw [same]
    omega

theorem ordinal_bounded {ns : Int} (inside : InYears 1000 9999 (ns / 1000000000)) :
    ordinal ns < 8640000000000000000000 := by
  have days : ns / 1000000000 / 86400 = ns / 86400000000000 := by omega
  have year := (inYears_iff.1 inside).2
  have real := exists_ofDays (ns / 86400000000000 + epochDay)
  have day := real.day_le
  have month := real.2.1
  simp only [Stamp.ofSeconds, days] at year
  unfold ordinal Date.number
  omega

/-- Texts of timestamps are in the order of these. -/
theorem format_lt_iff {first second : Int} {x y : String}
    (inside : InYears 1000 9999 (first / 1000000000))
    (inside' : InYears 1000 9999 (second / 1000000000))
    (formatted : format first = .ok x) (formatted' : format second = .ok y) :
    x < y ↔ first < second := by
  obtain rfl := Except.ok.inj ((format_of_inYears inside).symm.trans formatted)
  obtain rfl := Except.ok.inj ((format_of_inYears inside').symm.trans formatted')
  rw [String.lt_iff, String.toList_ofList, String.toList_ofList, ranks_fields,
    Nat.mod_eq_of_lt (ordinal_bounded inside), Nat.mod_eq_of_lt (ordinal_bounded inside')]
  constructor
  · intro less
    rcases Int.lt_trichotomy first second with before | rfl | after
    · exact before
    · exact absurd less (Nat.lt_irrefl _)
    · exact absurd less (Nat.lt_asymm (ordinal_lt inside' after))
  · exact ordinal_lt inside

/-- The timestamps of 64 bits are in the years of four digits. -/
theorem inYears_of_word {ns : Int} (word : IsWord ns) : InYears 1000 9999 (ns / 1000000000) := by
  obtain ⟨least, most⟩ := year_of_word word
  exact inYears_iff.2 ⟨by omega, by omega⟩

end Time

end ChainLog
