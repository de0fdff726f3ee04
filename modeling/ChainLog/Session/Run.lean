/-
# Running a session

`Step.run` takes a step and the state of the session to the state after it and
the answer.  A step that fails leaves the database as it was, apart from what its
inner steps did.  The lines of inner steps are part of the log of the step that
holds them, between the lines of its two halves.  A draft gets its name when its
append has ended, so nobody else has hold of it while the append is suspended.
-/
import ChainLog.Session.Step

namespace ChainLog.Session

set_option autoImplicit false

/-- The state of a session. -/
structure State where
  database : Database
  now : Time.Instant
  service : Service
  drafts : List (String × Draft)
  chains : List (String × Chain)
  cursors : List (String × Cursor)

def State.initial (database : Database) (now : Time.Instant) (pageSize : Option Int) : State :=
  ⟨database, now, Service.ofPageSize pageSize, [], [], []⟩

/-- Remember a value under a name, instead of what was there. -/
def remember {α : Type} (name : String) (a : α) (l : List (String × α)) : List (String × α) :=
  (name, a) :: l.filter (·.1 ≠ name)

namespace State

def keepDraft (s : State) (d : Draft) : Option String → State
  | none => s
  | some name => { s with drafts := remember name d s.drafts }

/-- Append a draft as a whole; the draft afterwards. -/
def appendDraft (s : State) (d : Draft) : State × Draft × List LogLine × Except Fault Unit :=
  let (db, d, log, outcome) := d.append s.database s.now
  ({ s with database := db }, d, log, outcome.mapError Fault.ofAppend)

def append (s : State) (p : Proposal) (keep : Option String) : State × Answer :=
  match p.build with
  | .error e => (s, .failed (.identifier e) [])
  | .ok d =>
      let (s, d, log, outcome) := s.appendDraft d
      (s.keepDraft d keep, .of (outcome.map fun _ => .draft d) log)

def reappend (s : State) (name : String) (changes : List (Field × Value)) : State × Answer :=
  match s.drafts.lookup name with
  | none => (s, .failed (.unknownName name) [])
  | some d =>
      let (s, d, log, outcome) := s.appendDraft (d.setAll changes)
      (s.keepDraft d (some name), .of (outcome.map fun _ => .draft d) log)

/-- The draft after `d` in a series: the next identifier and timestamp, and `d` as
its parent. -/
def successor (d : Draft) (id : Uuid) : Draft :=
  { d with
    id := .uuid (Uuid.ofNat (id.toNat + 1))
    parent := .uuid id
    timestamp := match d.timestamp with
      | .int n => .int (n + 1)
      | v => v
    idx := .none
    createdAt := .pending
    origin := .new }

/-- Append a series of drafts; it ends with the first that fails. -/
def appendSeries (s : State) (d : Draft) (id : Uuid) (first : Option Value) :
    Nat → State × Answer
  | 0 => (s, .ok .nothing [])
  | n + 1 =>
      match s.appendDraft { d with id := .uuid id } with
      | (s, _, log, .error f) => (s, .failed f log)
      | (s, stored, log, .ok _) =>
          let start := first.getD stored.idx
          if n = 0 then (s, .ok (.appended start stored.idx id) log)
          else
            let (s, answer) :=
              appendSeries s (successor d id) (Uuid.ofNat (id.toNat + 1)) (some start) n
            (s, .of answer.outcome (log ++ answer.log))

def appendMany (s : State) (p : Proposal) (count : Nat) : State × Answer :=
  match p.build with
  | .error e => (s, .failed (.identifier e) [])
  | .ok d =>
      match d.id.toUuid with
      | .error e => (s, .failed (.identifier e) [])
      | .ok id => s.appendSeries d id none count

/-- Read an identifier and then the tables. -/
def reading (s : State) (v : Value) (f : Store → Uuid → Except Fault Payload) : Answer :=
  match v.toUuid with
  | .error e => .failed (.identifier e) []
  | .ok u =>
      match s.database.store with
      | .error e => .failed (.storage e) []
      | .ok store => .of (f store u) []

/-- The reading that a request asks for. -/
def request (s : State) (r : ChainRequest) : List LogLine × Except Fault Chain :=
  match r.host.toUuid, r.since.toUuid with
  | .error e, _ => ([], .error (.identifier e))
  | .ok _, .error e => ([], .error (.identifier e))
  | .ok host, .ok since =>
      match s.database.chain ⟨host, .text r.tag⟩ since (pageSizeOr r.pageSize s.service.pageSize) with
      | .error e => ([], .error (.ofRead e))
      | .ok c => ([.reading c.name c.start], .ok c)

def readChain (s : State) (r : ChainRequest) (full : Bool) : Answer :=
  match s.request r with
  | (log, .error f) => .failed f log
  | (log, .ok c) =>
      .of ((c.read s.database).all.map (.reading c full) |>.mapError Fault.ofRead) log

def keepChain (s : State) (r : ChainRequest) (keep : String) : State × Answer :=
  match s.request r with
  | (log, .error f) => (s, .failed f log)
  | (log, .ok c) => ({ s with chains := remember keep c s.chains }, .ok (.chain c) log)

def listChain (s : State) (name : String) : Answer :=
  match s.chains.lookup name with
  | none => .failed (.unknownName name) []
  | some c => .of ((c.read s.database).all.map .records |>.mapError Fault.ofRead) []

def iterate (s : State) (name keep : String) : State × Answer :=
  match s.chains.lookup name with
  | none => (s, .failed (.unknownName name) [])
  | some c => ({ s with cursors := remember keep (.fresh c) s.cursors }, .ok .nothing [])

def next (s : State) (name : String) (n : Nat) : State × Answer :=
  match s.cursors.lookup name with
  | none => (s, .failed (.unknownName name) [])
  | some k =>
      let (k, outcome) := k.take s.database n
      ({ s with cursors := remember name k s.cursors },
        .of (outcome.map .progress |>.mapError Fault.ofRead) [])

/-- Records in the order of their chains and positions. -/
def recordOrder : Record → Record → Ordering :=
  Sorted.lexicographic
    [fun a b => compare a.chain.host.toNat b.chain.host.toNat,
      fun a b => a.chain.tag.order b.chain.tag, fun a b => a.idx.order b.idx,
      fun a b => compare a.id.toNat b.id.toNat]

def tipOrder : Tip → Tip → Ordering :=
  Sorted.lexicographic
    [fun a b => compare a.chain.host.toNat b.chain.host.toNat,
      fun a b => a.chain.tag.order b.chain.tag]

def dump (s : Store) : Payload :=
  .tables (Sorted.sort (Sorted.atMost recordOrder) s.records)
    (Sorted.sort (Sorted.atMost tipOrder) s.tips)

/-- A step that replaces the database or fails. -/
def replacing (s : State) (outcome : Except Fault Database) : State × Answer :=
  match outcome with
  | .error f => (s, .failed f [])
  | .ok db => ({ s with database := db }, .ok .nothing [])

def migrate (s : State) (direction : Schema.Direction) (revision : String) (offline : Bool) :
    State × Answer :=
  if offline then
    (s, .of ((Schema.offline direction revision).map .names |>.mapError .schema) [])
  else
    let (db, outcome) := s.database.migrate direction revision
    ({ s with database := db },
      .of (outcome.map (fun _ => .names db.tableNames) |>.mapError .schema) [])

/-- An operator's question about a chain: the operator opens the database. -/
def inspecting (s : State) (host : Value)
    (f : Database → Uuid → List LogLine × Except Fault Payload) : State × Answer :=
  let db := s.database.open
  match host.toUuid with
  | .error e => ({ s with database := db }, .failed (.identifier e) [])
  | .ok u =>
      let (log, outcome) := f db u
      ({ s with database := db }, .of outcome log)

def container (s : State) : Setup → State × Answer
  | .pageSize asked =>
      let configured := asked.getD defaultPageSize
      ({ s with database := s.database.open },
        .ok (.container configured (Service.ofPageSize (some configured)).pageSize) [])
  | .environment environment =>
      match Settings.ofEnvironment environment with
      | .error e => (s, .failed (.settings e) [])
      | .ok settings =>
          ({ s with database := s.database.open },
            .ok (.container settings.pageSize settings.service.pageSize) [])

end State

open State

mutual

def Step.run (s : State) : Step → State × Answer
  | .clock now => ({ s with now := now }, .ok .nothing [])
  | .service pageSize =>
      let service := Service.ofPageSize pageSize
      ({ s with service := service }, .ok (.number service.pageSize) [])
  | .defaultService =>
      let service := Service.ofPageSize none
      ({ s with service := service }, .ok (.number service.pageSize) [])
  | .append p keep => s.append p keep
  | .appendMany p count => s.appendMany p count
  | .reappend name changes => s.reappend name changes
  | .object name =>
      (s, match s.drafts.lookup name with
        | none => .failed (.unknownName name) []
        | some d => if d.origin = .lost then .failed .lost [] else .ok (.object d) [])
  | .race p keep inner =>
      match p.build with
      | .error e => (s, .failed (.identifier e) [])
      | .ok d =>
          match d.prepare s.database s.now with
          | (d, log, .error e) => (s.keepDraft d keep, .failed (.ofAppend e) log)
          | (d, log, .ok pending) =>
              let (s, answers) := runAll s inner
              let (db, d, log', outcome) := d.complete pending s.database s.now
              (({ s with database := db }).keepDraft d keep,
                .mk ((outcome.mapError Fault.ofAppend).map fun _ => .draft d)
                  (log ++ answers.flatMap Answer.log ++ log') (some answers))
  | .edit edits abandon =>
      s.replacing ((s.database.edit s.now edits abandon).mapError Fault.ofEdit)
  | .get id =>
      (s, s.reading id fun store u =>
        match store.record? u with
        | some r => .ok (.record r)
        | none => .error (.absent (.record u)))
  | .tipRecord host tag => (s, s.reading host fun store u => .ok (.row (store.tipRecord? ⟨u, .text tag⟩)))
  | .head host tag => (s, s.reading host fun store u => .ok (.row (store.head? ⟨u, .text tag⟩)))
  | .length host tag => (s, s.reading host fun store u => .ok (.cell (store.lengthOf ⟨u, .text tag⟩)))
  | .readChain r full => (s, s.readChain r full)
  | .chain r keep => s.keepChain r keep
  | .list name => (s, s.listChain name)
  | .iterate name keep => s.iterate name keep
  | .next name n => s.next name n
  | .status userId => (s, .of ((s.database.status userId).map .status |>.mapError .storage) [])
  | .verify host tag inner =>
      match host.toUuid with
      | .error e => (s, .failed (.identifier e) [])
      | .ok u =>
          match s.database.tipRow ⟨u, .text tag⟩ with
          | .error e => (s, .failed (.ofRead e) [])
          | .ok t =>
              let (s, answers) := runInner s inner
              let outcome := t.verifyWith s.service.pageSize s.database fun _ => s.database
              let log := match outcome with
                | .ok n => [LogLine.verified t.chain n]
                | .error _ => []
              (s, .mk ((outcome.map fun n => .number n).mapError Fault.ofRead)
                ((answers.getD []).flatMap Answer.log ++ log) answers)
  | .count conditions =>
      (s, .of (s.database.count conditions |>.map (fun n => .number n) |>.mapError Fault.ofCount) [])
  | .dump => (s, .of (s.database.store.map dump |>.mapError .storage) [])
  | .tipSummary host tag =>
      (s, s.reading host fun store u =>
        .ok (.text (((store.tip? ⟨u, .text tag⟩).map Tip.summary).getD "None")))
  | .createTables => s.replacing (s.database.createTables.mapError .storage)
  | .dropTables => s.replacing (s.database.dropTables.mapError .storage)
  | .upgrade => s.replacing (s.database.upgrade.mapError .storage)
  | .downgrade => s.replacing (s.database.downgrade.mapError .storage)
  | .schema => (s, .of (s.database.schema.map .schema |>.mapError .storage) [])
  | .migrate direction revision offline => s.migrate direction revision offline
  | .describeChain host tag pageSize =>
      s.inspecting host fun db u =>
        let (log, outcome) := db.describeChain ⟨u, .text tag⟩ (Service.ofPageSize pageSize)
        (log, (outcome.map .listings).mapError Fault.ofInspection)
  | .checkChain host tag pageSize =>
      s.inspecting host fun db u =>
        let (log, outcome) := db.checkChain host.display ⟨u, .text tag⟩ (Service.ofPageSize pageSize)
        (log, (outcome.map fun n => .number n).mapError Fault.ofRead)
  | .describeUser userId =>
      let db := s.database.open
      ({ s with database := db },
        .of ((db.describeUser userId).map .owned |>.mapError .storage) [])
  | .container setup => s.container setup
  | .inspect words environment =>
      let (db, log, outcome) := CommandLine.inspect s.database environment words
      ({ s with database := db }, .of ((outcome.map .result).mapError Fault.ofCommand) log)
  | .ensureTables environment =>
      let (db, log, outcome) := CommandLine.ensureTables s.database environment
      ({ s with database := db },
        .of ((outcome.map fun _ => .names db.tableNames).mapError Fault.ofCommand) log)

/-- The steps that a suspended step lets run, if it has any. -/
def runInner (s : State) : Option (List Step) → State × Option (List Answer)
  | none => (s, none)
  | some inner =>
      let (s, answers) := runAll s inner
      (s, some answers)

/-- Run steps one after the other; a step that fails does not stop the next one. -/
def runAll (s : State) : List Step → State × List Answer
  | [] => (s, [])
  | step :: rest =>
      let (s, answer) := step.run s
      let (s, answers) := runAll s rest
      (s, answer :: answers)

end

end ChainLog.Session
