/-
# The Gregorian calendar

Days are counted from the first of January of year 1, which is day 0, by the
leap-year rule in force for all years, also for those before it was made and
before year 1.

`Date.ofDays` splits a day count into cycles of 400 years, centuries, cycles of
four years and years; the last year of a cycle may be a day longer, so the
quotients of the longer cycles are capped.  `Date.toDays` counts the days before
a date directly.
-/

namespace ChainLog.Time

set_option autoImplicit false

structure Date where
  year : Int
  month : Nat
  day : Nat
deriving DecidableEq, Repr

def isLeap (year : Int) : Bool :=
  year % 4 == 0 && (year % 100 != 0 || year % 400 == 0)

def monthLengths (leap : Bool) : List Nat :=
  [31, if leap then 29 else 28, 31, 30, 31, 30, 31, 31, 30, 31, 30, 31]

/-- Days from day 0 to the first day of a year. -/
def daysBeforeYear (year : Int) : Int :=
  365 * (year - 1) + (year - 1) / 4 - (year - 1) / 100 + (year - 1) / 400

/-- Month and day of the day that is `rest` days after the first of `month`, the
lengths of the months from there on being given. -/
def monthAndDay : List Nat → Nat → Nat → Nat × Nat
  | [], month, rest => (month, rest + 1)
  | length :: later, month, rest =>
      if rest < length then (month, rest + 1) else monthAndDay later (month + 1) (rest - length)

/-- The year of a day and the day's number within it. -/
def yearAndDay (days : Int) : Int × Nat :=
  let cycle := days / 146097
  let inCycle := days % 146097
  let century := min 3 (inCycle / 36524)
  let inCentury := inCycle - 36524 * century
  let four := inCentury / 1461
  let inFour := inCentury % 1461
  let one := min 3 (inFour / 365)
  (400 * cycle + 100 * century + 4 * four + one + 1, (inFour - 365 * one).toNat)

def Date.ofDays (days : Int) : Date :=
  let (year, rest) := yearAndDay days
  let (month, day) := monthAndDay (monthLengths (isLeap year)) 1 rest
  ⟨year, month, day⟩

/-- The days in the first months of a year. -/
def daysIn : List Nat → Nat → Nat
  | length :: later, months + 1 => length + daysIn later months
  | _, _ => 0

/-- The number of a date's day. -/
def Date.toDays (d : Date) : Int :=
  daysBeforeYear d.year + daysIn (monthLengths (isLeap d.year)) (d.month - 1) + d.day - 1

/-- The day exists in its month. -/
def Date.Exists (d : Date) : Prop :=
  1 ≤ d.month ∧ d.month ≤ 12 ∧ 1 ≤ d.day ∧
    ∀ length ∈ (monthLengths (isLeap d.year))[d.month - 1]?, d.day ≤ length

/-- The day number of the first of January 1970. -/
def epochDay : Int := 719162

end ChainLog.Time
