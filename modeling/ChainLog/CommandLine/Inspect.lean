/-
# The inspection command

The command lists the records of a chain and then checks that it links up, or
lists the chains of a user.  Its exit code is 0 if all is well, 1 if there is no
such chain, and 2 if the chain is broken or the command line is refused.  A
command line is refused before the settings are looked at, except for a missing
host; bad settings are found before the database is opened.
-/
import ChainLog.CommandLine.Arguments
import ChainLog.Draft
import ChainLog.Inspection

namespace ChainLog.CommandLine

set_option autoImplicit false

/-- The end of a run of the command: what it printed, the exit code, and the last
line of the usage message if the command line was refused. -/
structure Result where
  code : Nat
  output : String
  usage : Option String
deriving DecidableEq

/-- Why the command ends without an exit code. -/
inductive Failure where
  | settings (e : SettingsError)
  | identifier (e : Uuid.ReadError)
  | inspection (e : InspectionError)
  | document (e : DocumentError)
deriving DecidableEq

def Refused.result (r : Refused) : Result :=
  ⟨2, "", some ("inspect_chain.py: error: " ++ r.message)⟩

/-- The help text. -/
def help : String :=
  "usage: inspect_chain.py [-h] [--user USER] [host] [tag]\n\ninspect a record chain\n\n"
    ++ "positional arguments:\n  host         host uuid\n  tag\n\noptions:\n"
    ++ "  -h, --help   show this help message and exit\n"
    ++ "  --user USER  list every chain of this user instead\n"

def lines (listings : List Listing) : String :=
  String.join (listings.map fun l => l.line ++ "\n")

/-- The outcome of a check that follows the output already printed. -/
def afterCheck (output : String) :
    List LogLine × Except ReadFailure Nat → List LogLine × Except Failure Result
  | (log, .ok _) => (log, .ok ⟨0, output, none⟩)
  | (log, .error (.absent a)) => (log ++ [.absent a], .ok ⟨1, output, none⟩)
  | (log, .error (.broken b)) => (log ++ [.defective b], .ok ⟨2, output, none⟩)
  | (log, .error e) => (log, .error (.inspection (.read e)))

/-- List a chain and check it. -/
def inspectChain (db : Database) (service : Service) (host : String) (tag : String) :
    List LogLine × Except Failure Result :=
  match Uuid.read host with
  | .error e => ([], .error (.identifier e))
  | .ok h =>
      match db.describeChain ⟨h, .text tag⟩ service with
      | (log, .error (.read (.absent a))) => (log ++ [.absent a], .ok ⟨1, "", none⟩)
      | (log, .error e) => (log, .error (.inspection e))
      | (log, .ok listings) =>
          let (log', result) := afterCheck (lines listings) (db.checkChain host ⟨h, .text tag⟩ service)
          (log ++ log', result)

/-- List the chains of a user. -/
def inspectUser (db : Database) (userId : Value) : Except Failure Result :=
  match db.describeUser userId with
  | .error e => .error (.inspection (.read (.storage e)))
  | .ok hosts =>
      match userDocument hosts with
      | .error e => .error (.document e)
      | .ok d => .ok ⟨0, Text.Json.pretty d ++ "\n", none⟩

/-- The user asked for, as a value to look for: without a number it is an empty list. -/
def userValue : Option Int → Value
  | some n => .int n
  | none => .list []

/-- The command on an opened database. -/
def perform (db : Database) (service : Service) (a : Arguments) :
    List LogLine × Except Failure Result :=
  match a.user, a.host with
  | some user, _ => ([], inspectUser db (userValue user))
  | none, none => ([], .ok Refused.hostMissing.result)
  | none, some host =>
      if host = "" then ([], .ok Refused.hostMissing.result)
      else inspectChain db service host a.tag

/-- The whole command.  The log holds the lines at or above the level set. -/
def inspect (db : Database) (environment : List (String × String)) (words : List String) :
    Database × List LogLine × Except Failure Result :=
  match read words with
  | .refused r => (db, [], .ok r.result)
  | .help => (db, [], .ok ⟨0, help, none⟩)
  | .arguments a =>
      match Settings.ofEnvironment environment with
      | .error e => (db, [], .error (.settings e))
      | .ok settings =>
          match settings.level with
          | .error e => (db, [], .error (.settings e))
          | .ok level =>
              let (log, result) := perform db.open settings.service a
              (db.open, LogLine.atLeast level log, result)

/-- The command that makes the tables. -/
def ensureTables (db : Database) (environment : List (String × String)) :
    Database × List LogLine × Except Failure Unit :=
  match Settings.ofEnvironment environment with
  | .error e => (db, [], .error (.settings e))
  | .ok settings =>
      match settings.level with
      | .error e => (db, [], .error (.settings e))
      | .ok level =>
          match db.open.createTables with
          | .error e => (db.open, [], .error (.inspection (.read (.storage e))))
          | .ok db => (db, LogLine.atLeast level [.tablesReady settings.databaseUri], .ok ())

end ChainLog.CommandLine
