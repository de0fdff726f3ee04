/-
# Sealed sessions

A session is sealed with everything in it: its database, the drafts that it remembers and its
cursors (`State.sealed`); so are its steps and its answers, with those inside them.  What a sealed
session does at a step, short of running other steps, is what the session itself does, sealed: an
append (`State.append_sealed`), a series, a reading, a cursor's turn, a question of an operator.

A step is blind (`Step.Blind`) if it asks for nothing that the seal covers.  Left out are editing
rows, counting records by their payload, and an operator's command, whose output is a text with the
sizes of payloads in it.  A step spares the payloads of a state (`Step.Spares`) if the drafts that
have been stored keep the bytes that they were stored with whenever it appends them once more.
-/
import ChainLog.Proofs.SealedReading
import ChainLog.Session.Run

namespace ChainLog

set_option autoImplicit false

variable (db : Database)

/-! ## The database as a whole -/

namespace Database

theorem createTables_sealed : db.sealed.createTables = db.createTables.map Database.sealed := by
  unfold createTables sealed
  cases db.opened with
  | false => rfl
  | true => cases db.tables <;> rfl

theorem dropTables_sealed : db.sealed.dropTables = db.dropTables.map Database.sealed := by
  unfold dropTables sealed
  cases db.opened <;> rfl

theorem makeTables_sealed : db.sealed.makeTables = db.makeTables.map Database.sealed := by
  unfold makeTables sealed
  cases db.tables <;> rfl

theorem discardTables_sealed : db.sealed.discardTables = db.discardTables.map Database.sealed := by
  unfold discardTables sealed
  cases db.tables <;> rfl

theorem upgrade_sealed : db.sealed.upgrade = db.upgrade.map Database.sealed := by
  have opened : db.sealed.opened = db.opened := rfl
  unfold upgrade
  rw [opened, makeTables_sealed]
  cases db.opened <;> rfl

theorem downgrade_sealed : db.sealed.downgrade = db.downgrade.map Database.sealed := by
  have opened : db.sealed.opened = db.opened := rfl
  unfold downgrade
  rw [opened, discardTables_sealed]
  cases db.opened <;> rfl

theorem schema_sealed : db.sealed.schema = db.schema := by
  unfold schema sealed
  cases db.tables <;> rfl

theorem tableNames_sealed : db.sealed.tableNames = db.tableNames := by
  unfold tableNames sealed
  cases db.tables <;> rfl

theorem migrate_sealed (direction : Schema.Direction) (target : String) :
    db.sealed.migrate direction target =
      ((db.migrate direction target).1.sealed, (db.migrate direction target).2) := by
  have stamp : db.sealed.stamp = db.stamp := rfl
  let stamped : Database := { db with stamp := some (db.stamp.getD false) }
  have made : ({ db.sealed with stamp := some (db.stamp.getD false) } : Database).makeTables =
      stamped.makeTables.map sealed := makeTables_sealed stamped
  have discarded :
      ({ db.sealed with stamp := some (db.stamp.getD false) } : Database).discardTables =
        stamped.discardTables.map sealed := discardTables_sealed stamped
  unfold migrate
  simp only [stamp]
  split
  · rfl
  cases Schema.moves direction (db.stamp.getD false) target with
  | error failure => rfl
  | ok moving =>
      cases moving with
      | false => rfl
      | true =>
          cases direction with
          | up =>
              simp only [made]
              cases stamped.makeTables <;> rfl
          | down =>
              simp only [discarded]
              cases stamped.discardTables <;> rfl

end Database

theorem CommandLine.ensureTables_sealed (environment : List (String × String)) :
    CommandLine.ensureTables db.sealed environment =
      ((CommandLine.ensureTables db environment).1.sealed,
        (CommandLine.ensureTables db environment).2) := by
  unfold CommandLine.ensureTables
  cases Settings.ofEnvironment environment with
  | error failure => rfl
  | ok settings =>
      simp only
      cases settings.level with
      | error failure => rfl
      | ok level =>
          have opened : db.sealed.open = db.open.sealed := rfl
          simp only [opened, Database.createTables_sealed]
          cases db.open.createTables <;> rfl

namespace Session

/-! ## Sealed steps and answers -/

def Proposal.sealed : Proposal → Proposal
  | given id host parent timestamp version tag payload userId =>
      given id host parent timestamp version tag payload.sealed userId
  | fresh random nanoseconds host tag version payload userId parent =>
      fresh random nanoseconds host tag version payload.sealed userId parent

/-- A change of a draft's field without the bytes that it assigns to the payload. -/
def sealedChange : Field × Value → Field × Value
  | (.payload, v) => (.payload, v.sealed)
  | change => change

def Payload.sealed : Payload → Payload
  | draft d => draft d.sealed
  | object d => object d.sealed
  | record r => record r.sealed
  | row r => row (r.map Record.sealed)
  | reading c full rs => reading c full (rs.map Record.sealed)
  | records l => records (l.map Record.sealed)
  | progress l => progress (l.map (Option.map Record.sealed))
  | tables rs tips => tables (rs.map Record.sealed) tips
  | listings l => listings (l.map Listing.sealed)
  | p => p

mutual

/-- The step without the bytes that it carries, and the steps inside it. -/
def Step.sealed : Step → Step
  | .append p keep => .append p.sealed keep
  | .appendMany p count => .appendMany p.sealed count
  | .reappend name changes => .reappend name (changes.map sealedChange)
  | .race p keep inner => .race p.sealed keep (sealedSteps inner)
  | .verify host tag inner => .verify host tag (sealedInner inner)
  | step => step

def sealedInner : Option (List Step) → Option (List Step)
  | none => none
  | some inner => some (sealedSteps inner)

def sealedSteps : List Step → List Step
  | [] => []
  | step :: rest => step.sealed :: sealedSteps rest

end

mutual

/-- The answer without the payloads in it, and the answers inside it. -/
def Answer.sealed : Answer → Answer
  | .mk outcome log inner => .mk (outcome.map Payload.sealed) log (sealedInnerAnswers inner)

def sealedInnerAnswers : Option (List Answer) → Option (List Answer)
  | none => none
  | some inner => some (sealedAnswers inner)

def sealedAnswers : List Answer → List Answer
  | [] => []
  | answer :: rest => answer.sealed :: sealedAnswers rest

end

mutual

/-- The step neither shows nor sets payloads but those of records and drafts. -/
def Step.Blind : Step → Prop
  | .edit .. => False
  | .inspect .. => False
  | .count conditions => ∀ condition ∈ conditions, condition.1 ≠ Field.payload.name
  | .race _ _ inner => BlindSteps inner
  | .verify _ _ inner => BlindInner inner
  | _ => True

def BlindInner : Option (List Step) → Prop
  | none => True
  | some inner => BlindSteps inner

def BlindSteps : List Step → Prop
  | [] => True
  | step :: rest => step.Blind ∧ BlindSteps rest

end

mutual

/-- A stored draft that the step appends once more has the bytes that it was stored with, and so
have those of the steps inside it, which begin in the same state. -/
def Step.Spares (s : State) : Step → Prop
  | .reappend name changes => ∀ d, s.drafts.lookup name = some d → (d.setAll changes).KeepsPayload
  | .race _ _ inner => SparesAll s inner
  | .verify _ _ inner => SparesInner s inner
  | _ => True

def SparesInner (s : State) : Option (List Step) → Prop
  | none => True
  | some inner => SparesAll s inner

def SparesAll (s : State) : List Step → Prop
  | [] => True
  | step :: rest => step.Spares s ∧ SparesAll (step.run s).1 rest

end

namespace State

/-- The state without the payloads in its tables, its drafts and its cursors. -/
def sealed (s : State) : State :=
  { s with
    database := s.database.sealed
    drafts := s.drafts.map fun entry => (entry.1, entry.2.sealed)
    cursors := s.cursors.map fun entry => (entry.1, entry.2.sealed) }

end State

/-! ## What is remembered -/

theorem lookup_map {α β : Type} (f : α → β) (name : String) (l : List (String × α)) :
    (l.map fun entry => (entry.1, f entry.2)).lookup name = (l.lookup name).map f := by
  induction l with
  | nil => rfl
  | cons entry rest ih =>
      rw [List.map_cons, List.lookup_cons, List.lookup_cons, ih]
      split <;> rfl

theorem remember_map {α β : Type} (f : α → β) (name : String) (a : α) (l : List (String × α)) :
    remember name (f a) (l.map fun entry => (entry.1, f entry.2)) =
      (remember name a l).map fun entry => (entry.1, f entry.2) := by
  simp only [remember, List.filter_map, List.map_cons]
  rfl

/-! ## Sealed drafts -/

theorem Proposal.build_sealed (p : Proposal) : p.sealed.build = p.build.map Draft.sealed := by
  cases p with
  | given id host parent timestamp version tag payload userId =>
      show Draft.given id host parent timestamp version tag payload.sealed userId =
        (Draft.given id host parent timestamp version tag payload userId).map Draft.sealed
      unfold Draft.given
      cases parent.toUuid <;> rfl
  | fresh random nanoseconds host tag version payload userId parent =>
      show Draft.fresh random nanoseconds host tag version payload.sealed userId parent =
        (Draft.fresh random nanoseconds host tag version payload userId parent).map Draft.sealed
      unfold Draft.fresh
      cases host.toUuid with
      | error failure => rfl
      | ok host =>
          show Draft.given _ _ _ _ _ _ payload.sealed _ =
            (Draft.given _ _ _ _ _ _ payload _).map Draft.sealed
          unfold Draft.given
          cases parent.toUuid <;> rfl

/-- A draft that has just been made was never stored. -/
theorem Proposal.build_new {p : Proposal} {d : Draft} (built : p.build = .ok d) : d.origin = .new := by
  have of_given {id host parent timestamp version tag payload userId : Value}
      (built : Draft.given id host parent timestamp version tag payload userId = .ok d) :
      d.origin = .new := by
    unfold Draft.given at built
    cases read : parent.toUuid with
    | error failure =>
        rw [read] at built
        cases built
    | ok u =>
        rw [read] at built
        obtain rfl := Except.ok.inj built
        rfl
  cases p with
  | given => exact of_given built
  | fresh random nanoseconds host tag version payload userId parent =>
      have built : Draft.fresh random nanoseconds host tag version payload userId parent = .ok d := built
      unfold Draft.fresh at built
      cases read : host.toUuid with
      | error failure =>
          rw [read] at built
          cases built
      | ok u =>
          rw [read] at built
          exact of_given built

theorem set_sealedChange (d : Draft) (change : Field × Value) :
    d.sealed.set (sealedChange change).2 (sealedChange change).1 =
      (d.set change.2 change.1).sealed := by
  obtain ⟨f, v⟩ := change
  cases f <;> rfl

theorem setAll_sealed (d : Draft) (changes : List (Field × Value)) :
    d.sealed.setAll (changes.map sealedChange) = (d.setAll changes).sealed := by
  unfold Draft.setAll
  induction changes generalizing d with
  | nil => rfl
  | cons change rest ih =>
      simp only [List.map_cons, List.foldl_cons, set_sealedChange, ih]

/-! ## Appends -/

namespace State

variable (s : State)

theorem keepDraft_sealed (d : Draft) (keep : Option String) :
    s.sealed.keepDraft d.sealed keep = (s.keepDraft d keep).sealed := by
  cases keep with
  | none => rfl
  | some name => simp only [keepDraft, sealed, remember_map]

theorem appendDraft_sealed {d : Draft} (spared : d.KeepsPayload) :
    s.sealed.appendDraft d.sealed =
      ((s.appendDraft d).1.sealed, (s.appendDraft d).2.1.sealed, (s.appendDraft d).2.2) := by
  have appended : d.sealed.append s.sealed.database s.sealed.now = _ := Draft.append_sealed spared
  unfold appendDraft
  rw [appended]
  rfl

theorem append_sealed (p : Proposal) (keep : Option String) :
    s.sealed.append p.sealed keep = Prod.map sealed Answer.sealed (s.append p keep) := by
  unfold append
  rw [Proposal.build_sealed]
  cases built : p.build with
  | error failure => rfl
  | ok d =>
      have spared := Draft.keepsPayload_of_new (Proposal.build_new built)
      simp only [Except.map, appendDraft_sealed s spared, keepDraft_sealed]
      rcases s.appendDraft d with ⟨s, d, log, failure | _⟩ <;> rfl

theorem reappend_sealed (name : String) (changes : List (Field × Value))
    (spares : (Step.reappend name changes).Spares s) :
    s.sealed.reappend name (changes.map sealedChange) =
      Prod.map sealed Answer.sealed (s.reappend name changes) := by
  have found : s.sealed.drafts.lookup name = (s.drafts.lookup name).map Draft.sealed :=
    lookup_map Draft.sealed name s.drafts
  unfold reappend
  rw [found]
  cases named : s.drafts.lookup name with
  | none => rfl
  | some d =>
      have spared := spares d named
      simp only [Option.map_some, setAll_sealed, appendDraft_sealed s spared, keepDraft_sealed]
      rcases s.appendDraft (d.setAll changes) with ⟨s, d, log, failure | _⟩ <;> rfl

theorem successor_new (d : Draft) (id : Uuid) : (successor d id).origin = .new := rfl

theorem successor_sealed (d : Draft) (id : Uuid) :
    successor d.sealed id = (successor d id).sealed := rfl

theorem appendSeries_sealed {d : Draft} (new : d.origin = .new) (id : Uuid) (first : Option Value)
    (n : Nat) :
    s.sealed.appendSeries d.sealed id first n =
      Prod.map sealed Answer.sealed (s.appendSeries d id first n) := by
  induction n generalizing s d id first with
  | zero => rfl
  | succ n ih =>
      have named : ({ d.sealed with id := .uuid id } : Draft) =
          ({ d with id := .uuid id } : Draft).sealed := rfl
      have spared : ({ d with id := .uuid id } : Draft).KeepsPayload := Draft.keepsPayload_of_new new
      simp only [appendSeries, named, appendDraft_sealed s spared, successor_sealed]
      rcases s.appendDraft { d with id := .uuid id } with ⟨s, stored, log, failure | _⟩
      · rfl
      · have idx : stored.sealed.idx = stored.idx := rfl
        simp only [idx, ih s (successor_new d id)]
        split
        · rfl
        · rcases s.appendSeries (successor d id) (Uuid.ofNat (id.toNat + 1))
            (some (first.getD stored.idx)) n with ⟨s, ⟨outcome, log, inner⟩⟩
          rfl

theorem appendMany_sealed (p : Proposal) (count : Nat) :
    s.sealed.appendMany p.sealed count = Prod.map sealed Answer.sealed (s.appendMany p count) := by
  unfold appendMany
  rw [Proposal.build_sealed]
  cases built : p.build with
  | error failure => rfl
  | ok d =>
      have id : d.sealed.id = d.id := rfl
      simp only [Except.map, id]
      cases d.id.toUuid with
      | error failure => rfl
      | ok id => exact s.appendSeries_sealed (Proposal.build_new built) id none count

/-! ## Reads -/

theorem reading_sealed (v : Value) {f : Store → Uuid → Except Fault Payload}
    (sealed_f : ∀ store u, f store.sealed u = (f store u).map Payload.sealed) :
    s.sealed.reading v f = (s.reading v f).sealed := by
  have store : s.sealed.database.store = s.database.store.map Store.sealed := Database.store_sealed
  unfold reading
  rw [store]
  cases v.toUuid with
  | error failure => rfl
  | ok u =>
      cases s.database.store with
      | error failure => rfl
      | ok store => exact congrArg (fun o => Answer.of o []) (sealed_f store u)

theorem request_sealed (r : ChainRequest) : s.sealed.request r = s.request r := by
  have chain (c : ChainName) (since : Uuid) (pageSize : Int) :
      s.sealed.database.chain c since pageSize = s.database.chain c since pageSize :=
    Database.chain_sealed pageSize
  unfold request
  simp only [chain]
  rfl

theorem read_all_sealed (c : Chain) (f : List Record → Payload)
    (sealed_f : ∀ l, f (l.map Record.sealed) = (f l).sealed) (log : List LogLine) :
    Answer.of ((c.read s.sealed.database).all.map f |>.mapError Fault.ofRead) log =
      (Answer.of ((c.read s.database).all.map f |>.mapError Fault.ofRead) log).sealed := by
  have read : c.read s.sealed.database = (c.read s.database).sealed := Chain.read_sealed
  rw [read, Reading.all_sealed]
  cases (c.read s.database).all with
  | error failure => rfl
  | ok l => exact congrArg (fun p => Answer.of (.ok p) log) (sealed_f l)

theorem readChain_sealed (r : ChainRequest) (full : Bool) :
    s.sealed.readChain r full = (s.readChain r full).sealed := by
  unfold readChain
  rw [request_sealed]
  rcases s.request r with ⟨log, failure | c⟩
  · rfl
  · exact s.read_all_sealed c (.reading c full) (fun _ => rfl) log

theorem keepChain_sealed (r : ChainRequest) (keep : String) :
    s.sealed.keepChain r keep = Prod.map sealed Answer.sealed (s.keepChain r keep) := by
  unfold keepChain
  rw [request_sealed]
  rcases s.request r with ⟨log, failure | c⟩ <;> rfl

theorem listChain_sealed (name : String) : s.sealed.listChain name = (s.listChain name).sealed := by
  have chains : s.sealed.chains = s.chains := rfl
  unfold listChain
  rw [chains]
  cases s.chains.lookup name with
  | none => rfl
  | some c => exact s.read_all_sealed c .records (fun _ => rfl) []

theorem keepCursor_sealed (name : String) (k : Cursor) :
    ({ s.sealed with cursors := remember name k.sealed s.sealed.cursors } : State) =
      ({ s with cursors := remember name k s.cursors } : State).sealed := by
  simp only [sealed, remember_map]

theorem iterate_sealed (name keep : String) :
    s.sealed.iterate name keep = Prod.map sealed Answer.sealed (s.iterate name keep) := by
  have chains : s.sealed.chains = s.chains := rfl
  unfold iterate
  rw [chains]
  cases s.chains.lookup name with
  | none => rfl
  | some c =>
      exact congrArg (fun t => (t, Answer.ok .nothing [])) (s.keepCursor_sealed keep (.fresh c))

theorem next_sealed (name : String) (n : Nat) :
    s.sealed.next name n = Prod.map sealed Answer.sealed (s.next name n) := by
  have found : s.sealed.cursors.lookup name = (s.cursors.lookup name).map Cursor.sealed :=
    lookup_map Cursor.sealed name s.cursors
  unfold next
  rw [found]
  cases s.cursors.lookup name with
  | none => rfl
  | some k =>
      have taken : k.sealed.take s.sealed.database n = _ := Cursor.take_sealed n k
      simp only [Option.map_some, taken, keepCursor_sealed]
      rcases k.take s.database n with ⟨k, failure | l⟩ <;> rfl

theorem dump_sealed (s : Store) : dump s.sealed = (dump s).sealed := by
  have sorted : Sorted.sort (Sorted.atMost recordOrder) s.sealed.records =
      (Sorted.sort (Sorted.atMost recordOrder) s.records).map Record.sealed :=
    Sorted.sort_map (fun _ _ => rfl) s.records
  unfold dump
  rw [sorted]
  rfl

/-! ## The schema and operators -/

theorem replacing_sealed {outcome outcome' : Except StorageError Database}
    (sealed_outcome : outcome' = outcome.map Database.sealed) :
    s.sealed.replacing (outcome'.mapError .storage) =
      Prod.map sealed Answer.sealed (s.replacing (outcome.mapError .storage)) := by
  subst sealed_outcome
  cases outcome <;> rfl

theorem migrate_sealed (direction : Schema.Direction) (revision : String) (offline : Bool) :
    s.sealed.migrate direction revision offline =
      Prod.map sealed Answer.sealed (s.migrate direction revision offline) := by
  have migrated : s.sealed.database.migrate direction revision = _ :=
    s.database.migrate_sealed direction revision
  unfold migrate
  cases offline with
  | true =>
      simp only [if_true]
      cases Schema.offline direction revision <;> rfl
  | false =>
      simp only [migrated, Database.tableNames_sealed]
      rcases s.database.migrate direction revision with ⟨db, failure | _⟩ <;> rfl

theorem inspecting_sealed (host : Value) {f : Database → Uuid → List LogLine × Except Fault Payload}
    (sealed_f : ∀ db u, f db.sealed u = ((f db u).1, (f db u).2.map Payload.sealed)) :
    s.sealed.inspecting host f = Prod.map sealed Answer.sealed (s.inspecting host f) := by
  have opened : s.sealed.database.open = s.database.open.sealed := rfl
  unfold inspecting
  cases host.toUuid with
  | error failure => rfl
  | ok u =>
      simp only [opened, sealed_f]
      rcases f s.database.open u with ⟨log, outcome⟩
      rfl

theorem container_sealed (setup : Setup) :
    s.sealed.container setup = Prod.map sealed Answer.sealed (s.container setup) := by
  cases setup with
  | pageSize asked => rfl
  | environment environment =>
      simp only [container]
      cases Settings.ofEnvironment environment <;> rfl

end State

end Session

end ChainLog
