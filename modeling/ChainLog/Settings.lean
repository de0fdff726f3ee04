/-
# Settings

Three variables of the environment: the database, the page size and the level of
the log.  A variable that is set to an empty text is set.  The level is put into
capitals here and looked up only by a program that logs.
-/
import ChainLog.Chain
import ChainLog.LogLine
import ChainLog.Text.Numeral
import ChainLog.Text.Uppercase

namespace ChainLog

set_option autoImplicit false

structure Settings where
  databaseUri : String
  pageSize : Int
  logLevel : String
deriving DecidableEq

inductive SettingsError where
  /-- The page size is no numeral. -/
  | pageSizeNumeral (text : String) (e : Text.Numeral.Error)
  | pageSizeNotPositive (n : Int)
  | unknownLevel (name : String)
deriving DecidableEq

def SettingsError.message : SettingsError → String
  | pageSizeNumeral text e => e.message text
  | pageSizeNotPositive n => "RECORD_STORE_PAGE_SIZE must be positive, got " ++ toString n
  | unknownLevel name => "Unknown level: " ++ Text.quoted name

namespace Settings

def defaultDatabaseUri : String := "sqlite:///records.db"

def default : Settings := ⟨defaultDatabaseUri, defaultPageSize, "INFO"⟩

/-- The page size that a text gives. -/
def readPageSize (text : String) : Except SettingsError Int :=
  match Text.Numeral.read .ten text.toList with
  | .error e => .error (.pageSizeNumeral text e)
  | .ok n => if n < 1 then .error (.pageSizeNotPositive n) else .ok n

/-- The settings of an environment, in which each name is set once. -/
def ofEnvironment (environment : List (String × String)) : Except SettingsError Settings := do
  let pageSize ← (environment.lookup "RECORD_STORE_PAGE_SIZE").elim (.ok defaultPageSize) readPageSize
  let uri := (environment.lookup "SQLALCHEMY_DATABASE_URI").getD defaultDatabaseUri
  let level := (environment.lookup "RECORD_STORE_LOG_LEVEL").getD "INFO"
  return ⟨uri, pageSize, Text.uppercase level⟩

/-- The level of the log, if there is one of that name. -/
def level (s : Settings) : Except SettingsError Level :=
  match Level.ofName? s.logLevel with
  | some l => .ok l
  | none => .error (.unknownLevel s.logLevel)

end Settings

/-- A service: a way of reading a database in pages of a given size. -/
structure Service where
  pageSize : Int
deriving DecidableEq

/-- A service for the page size asked for. -/
def Service.ofPageSize (asked : Option Int) : Service := ⟨pageSizeOr asked defaultPageSize⟩

/-- The page size that is asked for can be read with, and so can the one that stands in for it. -/
theorem pageSizeOr_readable {asked : Option Int} {otherwise : Int} (word : ∀ n ∈ asked, IsWord n)
    (stands : IsWord otherwise) (nonzero : otherwise ≠ 0) :
    IsWord (pageSizeOr asked otherwise) ∧ pageSizeOr asked otherwise ≠ 0 := by
  unfold pageSizeOr
  split
  · exact ⟨stands, nonzero⟩
  · rename_i n other
    exact ⟨word n rfl, other⟩
  · exact ⟨stands, nonzero⟩

theorem Service.ofPageSize_readable {asked : Option Int} (word : ∀ n ∈ asked, IsWord n) :
    IsWord (Service.ofPageSize asked).pageSize ∧ (Service.ofPageSize asked).pageSize ≠ 0 :=
  pageSizeOr_readable word (by decide) (by decide)

/-- The service that settings ask for. -/
def Settings.service (s : Settings) : Service := Service.ofPageSize (some s.pageSize)

namespace Settings

variable {environment : List (String × String)} {s : Settings}

/-- No environment sets a page size below one. -/
theorem pageSize_pos (settled : ofEnvironment environment = .ok s) : 1 ≤ s.pageSize := by
  unfold ofEnvironment at settled
  cases asked : environment.lookup "RECORD_STORE_PAGE_SIZE" with
  | none =>
    rw [asked] at settled
    obtain rfl := Except.ok.inj settled
    exact (by decide : 1 ≤ defaultPageSize)
  | some text =>
    rw [asked, Option.elim_some] at settled
    unfold readPageSize at settled
    split at settled
    · cases settled
    · split at settled
      · cases settled
      · rename_i n _ positive
        obtain rfl := Except.ok.inj settled
        exact Int.not_lt.1 positive

/-- The service reads with the page size that is set, since it is not zero. -/
theorem service_eq (positive : 1 ≤ s.pageSize) : s.service = ⟨s.pageSize⟩ := by
  unfold service Service.ofPageSize pageSizeOr
  split
  · rename_i zero
    have same := Option.some.inj zero
    omega
  · rename_i n _ same
    rw [Option.some.inj same]
  · rename_i missing
    cases missing

end Settings

end ChainLog
