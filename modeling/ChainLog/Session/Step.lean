/-
# Steps

A session is a list of steps against one database.  A step may name what it makes,
a draft, a reading or a cursor, and later steps refer to it.  Two steps hold steps
of their own: an append that is suspended between its two halves while others
go on, and a verification that is suspended after it has found the tip row.
-/
import ChainLog.Fault
import ChainLog.Cursor

namespace ChainLog.Session

set_option autoImplicit false

/-- How a draft is to be made. -/
inductive Proposal where
  | given (id host parent timestamp version tag payload userId : Value)
  | fresh (random : List UInt8) (nanoseconds : Int)
      (host tag version payload userId parent : Value)

def Proposal.build : Proposal → Except Uuid.ReadError Draft
  | given id host parent timestamp version tag payload userId =>
      Draft.given id host parent timestamp version tag payload userId
  | fresh random nanoseconds host tag version payload userId parent =>
      Draft.fresh random nanoseconds host tag version payload userId parent

/-- A chain as a caller names it. -/
structure ChainRequest where
  host : Value
  tag : String
  since : Value
  pageSize : Option Int

/-- How a service is to be set up: for a page size, or from an environment. -/
inductive Setup where
  | pageSize (asked : Option Int)
  | environment (environment : List (String × String))

inductive Step where
  | clock (now : Time.Instant)
  | service (pageSize : Option Int)
  | defaultService
  | append (p : Proposal) (keep : Option String)
  /-- Append `count` drafts, each naming the one before it as its parent. -/
  | appendMany (p : Proposal) (count : Nat)
  /-- Assign fields of a draft, stored or not, and append it once more. -/
  | reappend (name : String) (changes : List (Field × Value))
  | object (name : String)
  /-- An append that is suspended while the inner steps run. -/
  | race (p : Proposal) (keep : Option String) (inner : List Step)
  | edit (edits : List Edit) (abandon : Bool)
  | get (id : Value)
  | tipRecord (host : Value) (tag : String)
  | head (host : Value) (tag : String)
  | length (host : Value) (tag : String)
  | readChain (request : ChainRequest) (full : Bool)
  | chain (request : ChainRequest) (keep : String)
  | list (chain : String)
  | iterate (chain keep : String)
  | next (cursor : String) (n : Nat)
  | status (userId : Value)
  | verify (host : Value) (tag : String) (inner : Option (List Step))
  /-- Count the records with these values in the columns named. -/
  | count (conditions : List (String × Value))
  | dump
  | tipSummary (host : Value) (tag : String)
  | createTables
  | dropTables
  | upgrade
  | downgrade
  | schema
  | migrate (direction : Schema.Direction) (revision : String) (offline : Bool)
  | describeChain (host : Value) (tag : String) (pageSize : Option Int)
  | checkChain (host : Value) (tag : String) (pageSize : Option Int)
  | describeUser (userId : Value)
  | container (setup : Setup)
  | inspect (words : List String) (environment : List (String × String))
  | ensureTables (environment : List (String × String))

/-- What a step that succeeds answers. -/
inductive Payload where
  | nothing
  | draft (d : Draft)
  | object (d : Draft)
  | record (r : Record)
  | row (r : Option Record)
  | number (n : Int)
  | cell (c : Cell)
  | text (s : String)
  | names (l : List String)
  | appended (first last : Value) (tip : Uuid)
  | chain (c : Chain)
  | reading (c : Chain) (full : Bool) (records : List Record)
  | records (l : List Record)
  | progress (l : List (Option Record))
  | status (hosts : List (Uuid × List (Cell × Uuid)))
  | tables (records : List Record) (tips : List Tip)
  | schema (tables : List Table)
  | listings (l : List Listing)
  | owned (hosts : List (String × List (Cell × Shown × Cell)))
  | container (configured served : Int)
  | result (r : CommandLine.Result)

/-- What a step answers: a payload or a fault, the lines it logged, and the answers
of its inner steps if it came to them. -/
inductive Answer where
  | mk (outcome : Except Fault Payload) (log : List LogLine) (inner : Option (List Answer))

namespace Answer

def outcome : Answer → Except Fault Payload
  | mk o _ _ => o

def log : Answer → List LogLine
  | mk _ l _ => l

def inner : Answer → Option (List Answer)
  | mk _ _ i => i

def ok (p : Payload) (log : List LogLine) : Answer := mk (.ok p) log none

def failed (f : Fault) (log : List LogLine) : Answer := mk (.error f) log none

def of (o : Except Fault Payload) (log : List LogLine) : Answer := mk o log none

end Answer

end ChainLog.Session
