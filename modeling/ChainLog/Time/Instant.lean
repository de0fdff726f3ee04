/-
# Instants

The clock of the store counts microseconds since the epoch.  An instant is shown
as date and time of day; the fraction is left out when it is zero, and the zone
is shown only where it is known: an instant that was read back from a table has
lost it.
-/
import ChainLog.Text.Padded
import ChainLog.Time.Calendar

namespace ChainLog.Time

set_option autoImplicit false

open ChainLog.Text

/-- Date and time of day, to the second. -/
structure Stamp where
  date : Date
  hour : Nat
  minute : Nat
  second : Nat
deriving DecidableEq, Repr

/-- The stamp of a number of seconds since the epoch. -/
def Stamp.ofSeconds (seconds : Int) : Stamp :=
  let rest := (seconds % 86400).toNat
  ⟨Date.ofDays (seconds / 86400 + epochDay), rest / 3600, rest / 60 % 60, rest % 60⟩

def Stamp.toSeconds (s : Stamp) : Int :=
  (s.date.toDays - epochDay) * 86400 + s.hour * 3600 + s.minute * 60 + s.second

/-- `-mm-ddTHH:MM:SS`, the text of a stamp after its year. -/
def Stamp.afterYear (s : Stamp) : List Char :=
  '-' :: (Padded.digits 2 s.date.month ++ '-' :: (Padded.digits 2 s.date.day ++ 'T' ::
    (Padded.digits 2 s.hour ++ ':' :: (Padded.digits 2 s.minute ++ ':' :: Padded.digits 2 s.second))))

/-- Microseconds since the epoch. -/
structure Instant where
  microseconds : Int
deriving DecidableEq, Repr, Inhabited

def Instant.chars (t : Instant) : List Char :=
  let s := Stamp.ofSeconds (t.microseconds / 1000000)
  let fraction := (t.microseconds % 1000000).toNat
  Padded.digits 4 s.date.year.toNat ++ s.afterYear ++
    (if fraction = 0 then [] else '.' :: Padded.digits 6 fraction)

/-- An instant whose zone is not known. -/
def Instant.unzoned (t : Instant) : String := String.ofList t.chars

/-- An instant of universal time. -/
def Instant.zoned (t : Instant) : String := t.unzoned ++ "+00:00"

end ChainLog.Time
