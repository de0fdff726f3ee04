/-
# Texts of timestamps

The text of a timestamp loses nothing.  `denoted?` reads such a text by its fields alone, a year,
month, day, hour, minute and second that exist and nine digits of fraction, and counts the days of
the calendar before the date; of the text that is written of a timestamp it gives the timestamp back
(`format_denotes`).  All timestamps of 64 bits have a text: they fall into the years from 1677 to
2262 (`year_of_word`).
-/
import ChainLog.Proofs.ExactCalendar
import ChainLog.Time.Nanoseconds

namespace ChainLog

set_option autoImplicit false

/-! ## Decimal fields -/

namespace Text.Padded

/-- The number has so many decimal digits at most. -/
def Fits : Nat → Nat → Prop
  | 0, n => n = 0
  | w + 1, n => Fits w (n / 10)

/-- The number that decimal digits spell. -/
def number? (s : List Char) : Option Nat :=
  if s ≠ [] ∧ s.all Char.isDigit then some (Nat.ofDigitChars 10 s 0) else none

theorem isDigit_digit (n : Nat) : (Char.ofNat (48 + n % 10)).isDigit = true := by
  have all : ∀ d : Fin 10, (Char.ofNat (48 + d.val)).isDigit = true := by decide
  exact all ⟨n % 10, Nat.mod_lt n (by decide)⟩

theorem all_isDigit_digits (w n : Nat) : (digits w n).all Char.isDigit = true := by
  induction w generalizing n with
  | zero => rfl
  | succ w ih => rw [digits, List.all_append, ih, List.all_cons, isDigit_digit, List.all_nil]; rfl

theorem ofDigitChars_digits {w n : Nat} (fits : Fits w n) : Nat.ofDigitChars 10 (digits w n) 0 = n := by
  induction w generalizing n with
  | zero => exact fits.symm
  | succ w ih =>
    have last : (Char.ofNat (48 + n % 10)).toNat - '0'.toNat = n % 10 := by
      have all : ∀ d : Fin 10, (Char.ofNat (48 + d.val)).toNat - '0'.toNat = d.val := by decide
      exact all ⟨n % 10, Nat.mod_lt n (by decide)⟩
    rw [digits, Nat.ofDigitChars_append, ih fits, Nat.ofDigitChars_cons, Nat.ofDigitChars_nil, last]
    omega

theorem number?_digits {w n : Nat} (fits : Fits (w + 1) n) : number? (digits (w + 1) n) = some n := by
  have nonempty : digits (w + 1) n ≠ [] := by simp [digits]
  rw [number?, if_pos ⟨nonempty, all_isDigit_digits (w + 1) n⟩, ofDigitChars_digits fits]

theorem number?_toDigits (n : Nat) : number? (Nat.toDigits 10 n) = some n := by
  have digits : (Nat.toDigits 10 n).all Char.isDigit = true :=
    List.all_eq_true.2 fun c member =>
      Nat.isDigit_of_mem_toDigits (by decide) (by decide) member
  rw [number?, if_pos ⟨Nat.toDigits_ne_nil, digits⟩, Nat.ofDigitChars_toDigits (by decide) (by decide)]

end Text.Padded

namespace Time

open Text

/-! ## Stamps -/

/-- No month is longer than 31 days. -/
theorem Date.Exists.day_le {d : Date} (real : d.Exists) : d.day ≤ 31 := by
  obtain ⟨-, most, -, inside⟩ := real
  have lengths : ∀ leap, ∀ length ∈ monthLengths leap, length ≤ 31 := by decide
  cases found : (monthLengths (isLeap d.year))[d.month - 1]? with
  | none =>
    have twelve : (monthLengths (isLeap d.year)).length = 12 := rfl
    have := List.getElem?_eq_none_iff.1 found
    omega
  | some length =>
    exact Nat.le_trans (inside length found) (lengths _ length (List.mem_of_getElem? found))

/-- The date exists, and so does the time of day. -/
structure Stamp.Valid (s : Stamp) : Prop where
  date : s.date.Exists
  hour : s.hour < 24
  minute : s.minute < 60
  second : s.second < 60

instance (d : Date) : Decidable d.Exists :=
  inferInstanceAs (Decidable (_ ∧ _ ∧ _ ∧ _))

instance (s : Stamp) : Decidable s.Valid :=
  decidable_of_iff (s.date.Exists ∧ s.hour < 24 ∧ s.minute < 60 ∧ s.second < 60)
    ⟨fun h => ⟨h.1, h.2.1, h.2.2.1, h.2.2.2⟩, fun h => ⟨h.date, h.hour, h.minute, h.second⟩⟩

theorem Stamp.ofSeconds_exact (seconds : Int) :
    (Stamp.ofSeconds seconds).Valid ∧ (Stamp.ofSeconds seconds).toSeconds = seconds := by
  refine ⟨⟨exists_ofDays _, ?_, ?_, ?_⟩, ?_⟩
  · simp only [Stamp.ofSeconds]; omega
  · simp only [Stamp.ofSeconds]; omega
  · simp only [Stamp.ofSeconds]; omega
  · simp only [Stamp.ofSeconds, Stamp.toSeconds, toDays_ofDays]; omega

/-! ## Reading -/

/-- The nanoseconds since the epoch that a text denotes: a year, `-mm-ddTHH:MM:SS`, a point, nine
digits of fraction and a `Z`. -/
def denoted? (text : List Char) : Option Int :=
  match text.dropWhile (· != '-') with
  | ['-', m₁, m₂, '-', d₁, d₂, 'T', h₁, h₂, ':', n₁, n₂, ':', s₁, s₂, '.', f₁, f₂, f₃, f₄, f₅, f₆, f₇,
      f₈, f₉, 'Z'] => do
        let year ← Padded.number? (text.takeWhile (· != '-'))
        let month ← Padded.number? [m₁, m₂]
        let day ← Padded.number? [d₁, d₂]
        let hour ← Padded.number? [h₁, h₂]
        let minute ← Padded.number? [n₁, n₂]
        let second ← Padded.number? [s₁, s₂]
        let fraction ← Padded.number? [f₁, f₂, f₃, f₄, f₅, f₆, f₇, f₈, f₉]
        let stamp : Stamp := ⟨⟨year, month, day⟩, hour, minute, second⟩
        if stamp.Valid then some (stamp.toSeconds * 1000000000 + fraction) else none
  | _ => none

/-- A field of two digits spells its number. -/
theorem spelled_two {n : Nat} (small : n < 100) :
    ∃ a b, Padded.digits 2 n = [a, b] ∧ Padded.number? [a, b] = some n := by
  have fits : Padded.Fits 2 n := show n / 10 / 10 = 0 by omega
  exact ⟨_, _, rfl, Padded.number?_digits fits⟩

theorem spelled_nine {n : Nat} (small : n < 1000000000) :
    ∃ a b c d e f g h i, Padded.digits 9 n = [a, b, c, d, e, f, g, h, i] ∧
      Padded.number? [a, b, c, d, e, f, g, h, i] = some n := by
  have fits : Padded.Fits 9 n := show n / 10 / 10 / 10 / 10 / 10 / 10 / 10 / 10 / 10 = 0 by omega
  exact ⟨_, _, _, _, _, _, _, _, _, rfl, Padded.number?_digits fits⟩

/-- The text of a stamp that is valid denotes it. -/
theorem denoted?_nanosChars {s : Stamp} {nanos : Nat} (valid : s.Valid) (year : 0 ≤ s.date.year)
    (small : nanos < 1000000000) :
    denoted? (nanosChars s nanos) = some (s.toSeconds * 1000000000 + nanos) := by
  obtain ⟨⟨y, month, day⟩, hour, minute, second⟩ := s
  obtain ⟨y, rfl⟩ := Int.eq_ofNat_of_zero_le year
  have front : (toString (y : Int)).toList = Nat.toDigits 10 y := Nat.toList_repr
  have hyphen : ∀ c ∈ Nat.toDigits 10 y, (c != '-') = true := by
    intro c member
    have digit := Nat.isDigit_of_mem_toDigits (by decide) (by decide) member
    rw [bne_iff_ne]
    rintro rfl
    cases digit
  obtain ⟨m₁, m₂, month_digits, months⟩ :=
    spelled_two (Nat.lt_of_le_of_lt valid.date.2.1 (by decide : 12 < 100))
  obtain ⟨d₁, d₂, day_digits, days⟩ :=
    spelled_two (Nat.lt_of_le_of_lt valid.date.day_le (by decide : 31 < 100))
  obtain ⟨h₁, h₂, hour_digits, hours⟩ := spelled_two (Nat.lt_trans valid.hour (by decide))
  obtain ⟨n₁, n₂, minute_digits, minutes⟩ := spelled_two (Nat.lt_trans valid.minute (by decide))
  obtain ⟨s₁, s₂, second_digits, seconds⟩ := spelled_two (Nat.lt_trans valid.second (by decide))
  obtain ⟨f₁, f₂, f₃, f₄, f₅, f₆, f₇, f₈, f₉, fraction_digits, fraction⟩ := spelled_nine small
  have shape : nanosChars ⟨⟨y, month, day⟩, hour, minute, second⟩ nanos = Nat.toDigits 10 y ++
      ['-', m₁, m₂, '-', d₁, d₂, 'T', h₁, h₂, ':', n₁, n₂, ':', s₁, s₂, '.', f₁, f₂, f₃, f₄, f₅, f₆,
        f₇, f₈, f₉, 'Z'] := by
    simp only [nanosChars, Stamp.afterYear, front, month_digits, day_digits, hour_digits,
      minute_digits, second_digits, fraction_digits, List.cons_append, List.nil_append,
      List.append_assoc]
  unfold denoted?
  rw [shape, List.dropWhile_append_of_pos hyphen, List.takeWhile_append_of_pos hyphen]
  simp only [List.dropWhile_cons, List.takeWhile_cons, bne_self_eq_false, Bool.false_eq_true,
    if_false, List.append_nil, Padded.number?_toDigits, months, days, hours, minutes, seconds,
    fraction, Option.bind_eq_bind, Option.bind_some]
  exact if_pos valid

/-! ## Formatting -/

/-- The second of a stamp is in a year or a later one exactly if its day is. -/
theorem le_year_ofSeconds_iff {seconds year : Int} :
    year ≤ (Stamp.ofSeconds seconds).date.year ↔ daysBeforeYear year ≤ seconds / 86400 + epochDay :=
  le_year_ofDays_iff

/-- A timestamp in the years 1 to 9999 has a text, which denotes it. -/
theorem format_denotes {ns : Int} (least : 1 ≤ (Stamp.ofSeconds (ns / 1000000000)).date.year)
    (most : (Stamp.ofSeconds (ns / 1000000000)).date.year ≤ 9999) :
    ∃ text, format ns = .ok text ∧ denoted? text.toList = some ns := by
  have word : IsWord (ns / 1000000000) := by
    have first := le_year_ofSeconds_iff.1 least
    have last : ¬daysBeforeYear 10000 ≤ ns / 1000000000 / 86400 + epochDay := fun reached => by
      have := le_year_ofSeconds_iff.2 reached
      omega
    simp only [daysBeforeYear, epochDay] at first last
    exact ⟨by omega, by omega⟩
  have stamp : Stamp.ofSeconds? (ns / 1000000000) = .ok (Stamp.ofSeconds (ns / 1000000000)) := by
    unfold Stamp.ofSeconds?
    rw [if_neg (not_not_intro word), if_neg (by omega), if_neg (by omega)]
  obtain ⟨valid, whole⟩ := Stamp.ofSeconds_exact (ns / 1000000000)
  have small : (ns % 1000000000).toNat < 1000000000 := by omega
  have denoted := denoted?_nanosChars valid (by omega) small
  refine ⟨String.ofList (nanosChars (Stamp.ofSeconds (ns / 1000000000)) (ns % 1000000000).toNat), ?_, ?_⟩
  · unfold format formatChars
    rw [stamp]
    rfl
  · rw [String.toList_ofList, denoted, whole]
    congr 1
    omega

example : denoted? "1969-12-31T23:59:59.999999999Z".toList = some (-1) := by decide

/-- The timestamps of 64 bits fall into the years from 1677 to 2262. -/
theorem year_of_word {ns : Int} (word : IsWord ns) :
    1677 ≤ (Stamp.ofSeconds (ns / 1000000000)).date.year ∧
      (Stamp.ofSeconds (ns / 1000000000)).date.year ≤ 2262 := by
  obtain ⟨first, last⟩ := word
  constructor
  · rw [le_year_ofSeconds_iff]
    simp only [daysBeforeYear, epochDay]
    omega
  · refine Int.le_of_lt_add_one (Int.not_le.1 fun reached => ?_)
    have := le_year_ofSeconds_iff.1 reached
    simp only [daysBeforeYear, epochDay] at this
    omega

end Time

end ChainLog
