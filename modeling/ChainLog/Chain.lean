/-
# Reading a chain

A `Chain` is a reading that has not begun: a chain's name, the position to start
at, and the size of the pages.  Whenever the reading is begun it notes the length
of the chain; it then asks for one page after the other, each a transaction of its
own, and stops at that length.  Records that are appended meanwhile are not seen.

`readWith` takes the database anew for every page: `view i` is what the i-th page
read sees.  Each page moves the position on, so the distance to the end bounds the
number of pages (`pagesFrom` counts it down).  Positions and lengths are integers,
unless rows were edited directly; then they may turn out not to be comparable.  A
`Reading` that fails half-way still has the records before that: who walks it may
stop at one of them.
-/
import ChainLog.Database
import ChainLog.Refusal
import ChainLog.Sorted

namespace ChainLog

set_option autoImplicit false

/-- Why something cannot be read. -/
inductive ReadFailure where
  | storage (e : StorageError)
  | absent (a : Absence)
  | broken (b : Broken)
  | operand (e : OperandError)
deriving DecidableEq

structure Chain where
  name : ChainName
  start : Cell
  pageSize : Int
deriving DecidableEq

/-- The page size that is used when none, or zero, is asked for. -/
def defaultPageSize : Int := 100

/-- The page size asked for, unless it is missing or zero. -/
def pageSizeOr (asked : Option Int) (otherwise : Int) : Int :=
  match asked with
  | some 0 => otherwise
  | some n => n
  | none => otherwise

def Chain.summary (c : Chain) : String :=
  "<RecordChain host=" ++ c.name.host.text ++ " tag=" ++ c.name.tag.display
    ++ " start_idx=" ++ c.start.display ++ ">"

namespace Store

/-- The records of a chain from one position up to another, in order. -/
def window (s : Store) (c : ChainName) (position stop : Cell) : List Record :=
  Sorted.sort (fun a b => a.idx.atMost b.idx)
    ((s.ofChain c).filter fun r => position.atMost r.idx && r.idx.below stop)

/-- At most `n` elements; a negative limit is none. -/
def limit {α : Type} (n : Int) (l : List α) : List α :=
  if n < 0 then l else l.take n.toNat

def page (s : Store) (c : Chain) (position stop : Cell) : List Record :=
  limit c.pageSize (s.window c.name position stop)

end Store

/-- One page read; the positions and the limit must be parameters. -/
def Database.page (db : Database) (c : Chain) (position stop : Cell) :
    Except StorageError (List Record) := do
  let s ← db.store
  let position ← position.parameter.mapError .parameter
  let stop ← stop.parameter.mapError .parameter
  if IsWord c.pageSize then return s.page c position stop
  else throw (.parameter .tooLarge)

/-- What comes of reading a chain: records, and then the end of the chain or a
failure. -/
structure Reading where
  records : List Record
  failure? : Option ReadFailure
deriving DecidableEq

namespace Reading

def finished : Reading := ⟨[], none⟩

def failed (e : ReadFailure) : Reading := ⟨[], some e⟩

/-- The reading that has the records of a page before its own. -/
def after (page : List Record) (r : Reading) : Reading := { r with records := page ++ r.records }

/-- All records, if there was no failure. -/
def all (r : Reading) : Except ReadFailure (List Record) :=
  match r.failure? with
  | some e => .error e
  | none => .ok r.records

end Reading

namespace Chain

/-- The records of a reading from `position` up to `stop`, page read `i` being the
next one; at most `fuel` pages.  Where one more than the last position is no more than
that position, which is so for floating-point values that are large enough, whoever
reads on gets the same page for ever; of such a reading these are the records up to
the first time that nothing new comes.  A cursor does go on (`Cursor.next`). -/
def pagesFrom (c : Chain) (view : Nat → Database) (stop : Cell) : Nat → Nat → Cell → Reading
  | 0, _, _ => .finished
  | fuel + 1, i, position =>
      match position.isBelow? stop with
      | .error e => .failed (.operand e)
      | .ok false => .finished
      | .ok true =>
          match (view i).page c position stop with
          | .error e => .failed (.storage e)
          | .ok page =>
              match page.getLast? with
              | none => .finished
              | some last => Reading.after page <|
                  match last.idx.next? with
                  | .error e => .failed (.operand e)
                  | .ok position =>
                      if last.idx.below position then pagesFrom c view stop fuel (i + 1) position
                      else .finished

/-- More pages than there can be between two positions: one for each integer, and twice
as many where floating-point values are counted up. -/
def pageBound : Cell → Cell → Nat
  | .int start, .int stop => (stop - start).toNat
  | start, stop => 2 * ((stop.number - start.number) / Cell.unit).toNat + 2

/-- A whole reading up to `stop`. -/
def readUpTo (c : Chain) (view : Nat → Database) (stop : Cell) : Reading :=
  c.pagesFrom view stop (pageBound c.start stop) 0 c.start

/-- A whole reading: the length is noted in `atStart`, the pages are read in `view`. -/
def readWith (c : Chain) (atStart : Database) (view : Nat → Database) : Reading :=
  match atStart.store with
  | .error e => .failed (.storage e)
  | .ok s => c.readUpTo view (s.lengthOf c.name)

/-- A whole reading of a database that does not change. -/
def read (c : Chain) (db : Database) : Reading :=
  c.readWith db fun _ => db

end Chain

/-- The position after the record `since`, which must be in the chain; the start for
nil. -/
def Store.startAfter (s : Store) (c : ChainName) (since : Uuid) : Except ReadFailure Cell :=
  if (s.tip? c).isNone then .error (.absent (.chain c))
  else if since = Uuid.nil then .ok (.int 0)
  else
    match s.record? since with
    | none => .error (.absent (.notInChain since c))
    | some r =>
        if r.chain = c then r.idx.next?.mapError .operand
        else .error (.absent (.notInChain since c))

/-- A reading of an existing chain, from after `since`. -/
def Database.chain (db : Database) (c : ChainName) (since : Uuid) (pageSize : Int) :
    Except ReadFailure Chain :=
  match db.store with
  | .error e => .error (.storage e)
  | .ok s => (s.startAfter c since).map fun start => ⟨c, start, pageSize⟩

end ChainLog
