/-
# Nanosecond timestamps

Records carry nanoseconds since the epoch.  Their text keeps all of them: date
and time of day of the whole seconds, rounded down, then nine digits of
fraction and a `Z`.  The year is written without padding.

A timestamp outside the years 1 to 9999 has no text.  Three bounds lie behind each
other: the seconds must fit 64 bits, the year, counted from 1900, must fit 32
bits, and only then is the year itself looked at, as a number of 32 bits.
-/
import ChainLog.Decimal.Shortest
import ChainLog.Time.Instant
import ChainLog.Value
import ChainLog.Word

namespace ChainLog.Time

set_option autoImplicit false

open ChainLog.Text

/-- Why a timestamp has no text. -/
inductive DisplayError where
  /-- The seconds do not fit 64 bits. -/
  | beyondClock
  /-- The year, counted from 1900, does not fit 32 bits. -/
  | beyondCalendar
  | yearOutOfRange (year : Int)
  /-- A floating-point value has no whole nanoseconds to write. -/
  | notWhole
  /-- A floating-point value that is no finite number. -/
  | notFinite
  | notANumber (typeName : String)
deriving DecidableEq, Repr

def DisplayError.message : DisplayError → String
  | beyondClock => "timestamp out of range for platform time_t"
  | beyondCalendar => "[Errno 75] Value too large for defined data type"
  | yearOutOfRange year => "year " ++ toString year ++ " is out of range"
  | notWhole => "Unknown format code 'd' for object of type 'float'"
  | notFinite => "Invalid value NaN (not a number)"
  | notANumber typeName =>
      "unsupported operand type(s) for divmod(): '" ++ typeName ++ "' and 'int'"

/-- The stamp of a number of seconds, if it has one that can be written. -/
def Stamp.ofSeconds? (seconds : Int) : Except DisplayError Stamp :=
  let s := Stamp.ofSeconds seconds
  if ¬ IsWord seconds then .error .beyondClock
  else if s.date.year - 1900 < -0x80000000 ∨ 0x80000000 ≤ s.date.year - 1900 then
    .error .beyondCalendar
  else if s.date.year < 1 ∨ 9999 < s.date.year then
    .error (.yearOutOfRange (s.date.year.bmod 0x100000000))
  else .ok s

def nanosChars (s : Stamp) (nanos : Nat) : List Char :=
  (toString s.date.year).toList ++ s.afterYear ++ '.' :: (Padded.digits 9 nanos ++ ['Z'])

/-- The text of a timestamp, as characters. -/
def formatChars (ns : Int) : Except DisplayError (List Char) :=
  (Stamp.ofSeconds? (ns / 1000000000)).map fun s => nanosChars s (ns % 1000000000).toNat

/-- The text of a timestamp. -/
def format (ns : Int) : Except DisplayError String :=
  (formatChars ns).map String.ofList

/-- The remainder of a finite value in a division by 10^9, with the value's sign; it
is exact. -/
def remainder (ns : Float) : Float :=
  let b := Decimal.Binary.ofBits ns.toBits
  let rest := Float.scaleB (Float.ofNat ((b.m <<< b.q.toNat) % (1000000000 <<< (-b.q).toNat)))
    (min b.q 0)
  if ns.toBits.toNat < 0x8000000000000000 then rest else -rest

/-- A finite value without a fraction as a whole number; a fraction is dropped. -/
def wholePart (x : Float) : Int :=
  let low : Int := (Decimal.Binary.ofBits x.toBits).floorAt 0
  if x.toBits.toNat < 0x8000000000000000 then low else -low

/-- The whole seconds in a finite number of nanoseconds, as floating-point division
rounds them down: the exact remainder is taken off before the division, and the
quotient is put on the whole number that it is nearest to. -/
def floatSeconds (ns : Float) : Int :=
  let rest := remainder ns
  let quotient := (ns - rest) / 1e9
  let quotient := if rest < 0.0 then quotient - 1.0 else quotient
  let low := quotient.floor
  wholePart (if quotient - low > 0.5 then low + 1.0 else low)

/-- The last second that fits 64 bits. -/
def lastSecond : Int := 0x7fffffffffffffff

/-- What is wrong with a timestamp in floating point: its range, if not its type.
The next number after the last second is the floating-point value closest to it, and
stands for it. -/
def floatError (ns : Float) : DisplayError :=
  if ns.isNaN || ns.isInf then .notFinite
  else
    let seconds := floatSeconds ns
    match Stamp.ofSeconds? (if seconds = lastSecond + 1 then lastSecond else seconds) with
    | .error e => e
    | .ok _ => .notWhole

/-- The text of a timestamp whose type has not been checked. -/
def formatValue (v : Value) : Except DisplayError String :=
  match v.toInt?, v with
  | some n, _ => format n
  | none, .float x => .error (floatError x)
  | none, v => .error (.notANumber v.typeName)

end ChainLog.Time
