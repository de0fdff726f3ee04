/-
# Reading sealed tables

What is read from sealed tables is what is read from the tables, sealed: pages, whole readings and
cursors (`Chain.readWith_sealed`, `Cursor.take_sealed`).  What is not a record is just the same: a
verification (`Tip.verifyWith_sealed`), the chains of a user, a count by any column but that of the
payloads (`Database.count_sealed`).  A listing tells the size of a payload and no more of it.
-/
import ChainLog.Cursor
import ChainLog.Inspection
import ChainLog.Query
import ChainLog.Proofs.Sealing

namespace ChainLog

set_option autoImplicit false

/-- The reading without the payloads. -/
def Reading.sealed (r : Reading) : Reading := { r with records := r.records.map Record.sealed }

def Cursor.sealed : Cursor → Cursor
  | fresh c => fresh c
  | reading c stop rest last => reading c stop (rest.map Record.sealed) last
  | done => done

/-- The listing without the size of the payload. -/
def Listing.sealed (l : Listing) : Listing := { l with size := 0 }

variable {s : Store} {db atStart : Database} {view : Nat → Database} {c : Chain}
  {name : ChainName}  {position stop : Cell} {r : Reading} {t : Tip} {since : Uuid} {user : Value}

/-! ## Pages -/

namespace Store

theorem ofChain_sealed : s.sealed.ofChain name = (s.ofChain name).map Record.sealed := by
  simp only [ofChain, sealed, List.filter_map]
  rfl

theorem window_sealed :
    s.sealed.window name position stop = (s.window name position stop).map Record.sealed := by
  unfold window
  rw [ofChain_sealed, List.filter_map]
  exact Sorted.sort_map (fun _ _ => rfl) _

theorem limit_map {α β : Type} (f : α → β) (n : Int) (l : List α) :
    limit n (l.map f) = (limit n l).map f := by
  unfold limit
  split
  · rfl
  · rw [List.map_take]

theorem page_sealed :
    s.sealed.page c position stop = (s.page c position stop).map Record.sealed := by
  rw [page, window_sealed, limit_map, page]

theorem startAfter_sealed : s.sealed.startAfter name since = s.startAfter name since := by
  unfold startAfter
  rw [tip?_sealed, record?_sealed]
  cases s.record? since <;> rfl

end Store

theorem Database.page_sealed :
    db.sealed.page c position stop = (db.page c position stop).map (List.map Record.sealed) := by
  unfold page
  rw [store_sealed]
  cases db.store with
  | error failure => rfl
  | ok s =>
      cases position.parameter with
      | error cause => rfl
      | ok position =>
          cases stop.parameter with
          | error cause => rfl
          | ok stop =>
              show (if IsWord c.pageSize then _ else _) =
                Except.map _ (if IsWord c.pageSize then _ else _)
              split
              · exact congrArg Except.ok Store.page_sealed
              · rfl

/-! ## Readings -/

namespace Reading

theorem after_sealed (page : List Record) (r : Reading) :
    after (page.map Record.sealed) r.sealed = (after page r).sealed := by
  simp only [after, sealed, List.map_append]

theorem all_sealed : r.sealed.all = r.all.map (List.map Record.sealed) := by
  unfold all sealed
  cases r.failure? <;> rfl

end Reading

namespace Chain

theorem pagesFrom_sealed (fuel i : Nat) (position : Cell) :
    c.pagesFrom (fun i => (view i).sealed) stop fuel i position =
      (c.pagesFrom view stop fuel i position).sealed := by
  induction fuel generalizing i position with
  | zero => rfl
  | succ fuel ih =>
      simp only [pagesFrom]
      cases position.isBelow? stop with
      | error cause => rfl
      | ok below =>
          cases below with
          | false => rfl
          | true =>
              simp only [Database.page_sealed]
              cases (view i).page c position stop with
              | error failure => rfl
              | ok page =>
                  simp only [Except.map, List.getLast?_map]
                  cases page.getLast? with
                  | none => rfl
                  | some last =>
                      have idx : last.sealed.idx = last.idx := rfl
                      simp only [Option.map_some, idx]
                      rw [← Reading.after_sealed]
                      congr 1
                      cases last.idx.next? with
                      | error cause => rfl
                      | ok next =>
                          simp only [ih]
                          split <;> rfl

theorem readWith_sealed :
    c.readWith atStart.sealed (fun i => (view i).sealed) = (c.readWith atStart view).sealed := by
  unfold readWith
  rw [Database.store_sealed]
  cases atStart.store with
  | error failure => rfl
  | ok s => exact pagesFrom_sealed _ _ _

theorem read_sealed : c.read db.sealed = (c.read db).sealed :=
  readWith_sealed

end Chain

theorem Database.chain_sealed (pageSize : Int) :
    db.sealed.chain name since pageSize = db.chain name since pageSize := by
  unfold chain
  rw [store_sealed]
  cases db.store with
  | error failure => rfl
  | ok s => simp only [Except.map, Store.startAfter_sealed]

/-! ## Cursors -/

namespace Cursor

theorem turn_sealed :
    turn db.sealed c stop position =
      ((turn db c stop position).1.sealed,
        (turn db c stop position).2.map (Option.map Record.sealed)) := by
  unfold turn
  cases position.isBelow? stop with
  | error cause => rfl
  | ok below =>
      cases below with
      | false => rfl
      | true =>
          simp only [Database.page_sealed]
          cases db.page c position stop with
          | error failure => rfl
          | ok page =>
              cases page with
              | nil => rfl
              | cons first rest =>
                  have last (nonempty : (first :: rest).map Record.sealed ≠ []) :
                      (((first :: rest).map Record.sealed).getLast nonempty).idx =
                        ((first :: rest).getLast (by simp)).idx := by
                    rw [List.getLast_map]
                    rfl
                  rw [List.map_cons] at last
                  simp only [Except.map, List.map_cons, last]
                  rfl

theorem next_sealed (k : Cursor) :
    k.sealed.next db.sealed =
      ((k.next db).1.sealed, (k.next db).2.map (Option.map Record.sealed)) := by
  cases k with
  | done => rfl
  | fresh c =>
      simp only [sealed, next, Database.store_sealed]
      cases db.store with
      | error failure => rfl
      | ok s => exact turn_sealed
  | reading c stop rest last =>
      cases rest with
      | cons first rest => rfl
      | nil =>
          simp only [sealed, List.map_nil, next]
          cases last.next? with
          | error cause => rfl
          | ok position => exact turn_sealed

theorem take_sealed (n : Nat) (k : Cursor) :
    take db.sealed n k.sealed =
      ((take db n k).1.sealed, (take db n k).2.map (List.map (Option.map Record.sealed))) := by
  induction n generalizing k with
  | zero => rfl
  | succ n ih =>
      simp only [take, next_sealed]
      rcases k.next db with ⟨k, failure | _ | first⟩
      · rfl
      · rfl
      · simp only [Except.map, Option.map_some, ih]
        rcases take db n k with ⟨k, failure | rest⟩ <;> rfl

end Cursor

/-! ## Verification -/

theorem walk_sealed (length : Cell) (expected : Uuid) (count : Nat) (l : List Record) :
    walk name length expected count (l.map Record.sealed) = walk name length expected count l := by
  induction l generalizing expected count with
  | nil => rfl
  | cons first rest ih =>
      have id : first.sealed.id = first.id := rfl
      have parent : first.sealed.parent = first.parent := rfl
      have idx : first.sealed.idx = first.idx := rfl
      simp only [List.map_cons, walk, id, parent, idx, ih]

theorem Tip.check_sealed : t.check r.sealed = t.check r := by
  unfold check Reading.sealed
  simp only [walk_sealed, List.length_map]

theorem Tip.verifyWith_sealed (pageSize : Int) :
    t.verifyWith pageSize atStart.sealed (fun i => (view i).sealed) =
      t.verifyWith pageSize atStart view := by
  rw [verifyWith, Chain.readWith_sealed, check_sealed, verifyWith]

namespace Database

theorem tipRow_sealed : db.sealed.tipRow name = db.tipRow name := by
  unfold tipRow
  rw [store_sealed]
  cases db.store <;> rfl

theorem verify_sealed (pageSize : Int) :
    db.sealed.verify name pageSize = db.verify name pageSize := by
  unfold verify
  rw [tipRow_sealed]
  cases db.tipRow name with
  | error failure => rfl
  | ok t => exact t.verifyWith_sealed pageSize

theorem checkChain_sealed (host : String) (service : Service) :
    db.sealed.checkChain host name service = db.checkChain host name service := by
  rw [checkChain, verify_sealed, checkChain]

/-! ## Owners -/

theorem status_sealed : db.sealed.status user = db.status user := by
  unfold status ownedBy
  rw [store_sealed]
  cases db.store <;> rfl

theorem describeUser_sealed : db.sealed.describeUser user = db.describeUser user := by
  unfold describeUser
  rw [status_sealed, store_sealed]
  cases db.status user with
  | error failure => rfl
  | ok hosts => cases db.store <;> rfl

end Database

/-! ## Listings -/

theorem Record.listing_sealed (r : Record) : r.sealed.listing = r.listing.map Listing.sealed := by
  have timestamp : r.sealed.timestamp = r.timestamp := rfl
  unfold listing
  rw [timestamp]
  cases Time.formatValue r.timestamp.value <;> rfl

theorem Record.listings_sealed (l : List Record) :
    (l.map Record.sealed).mapM listing = (l.mapM listing).map (List.map Listing.sealed) := by
  induction l with
  | nil => rfl
  | cons first rest ih =>
      rw [List.map_cons, List.mapM_cons, List.mapM_cons, listing_sealed, ih]
      cases first.listing with
      | error cause => rfl
      | ok line => cases rest.mapM listing <;> rfl

theorem Reading.listings_sealed : r.sealed.listings = r.listings.map (List.map Listing.sealed) := by
  have failure? : r.sealed.failure? = r.failure? := rfl
  have records : r.sealed.records = r.records.map Record.sealed := rfl
  unfold listings
  rw [failure?, records, Record.listings_sealed]
  cases r.records.mapM Record.listing with
  | error cause => rfl
  | ok lines => cases r.failure? <;> rfl

theorem Database.describeChain_sealed (service : Service) :
    db.sealed.describeChain name service =
      ((db.describeChain name service).1,
        (db.describeChain name service).2.map (List.map Listing.sealed)) := by
  unfold describeChain
  rw [chain_sealed]
  cases db.chain name Uuid.nil service.pageSize with
  | error failure => rfl
  | ok chain => simp only [Chain.read_sealed, Reading.listings_sealed]

/-! ## Counts -/

theorem Field.name_of_ofName? {f : Field} {name : String} (found : Field.ofName? name = some f) :
    f.name = name := by
  simpa using List.find?_some found

theorem field_of_readCondition {name : String} {v : Value} {condition : Field × Value}
    (read : readCondition name v = .ok condition) : condition.1.name = name := by
  unfold readCondition at read
  cases found : Field.ofName? name with
  | none =>
      rw [found] at read
      cases read
  | some f =>
      have named := Field.name_of_ofName? found
      rw [found] at read
      cases f with
      | id | host | parent =>
          cases parsed : v.toUuid with
          | error cause =>
              rw [parsed] at read
              cases read
          | ok u =>
              rw [parsed] at read
              obtain rfl := Except.ok.inj read
              exact named
      | _ =>
          obtain rfl := Except.ok.inj read
          exact named

/-- No criterion but that of the payload asks for the payload. -/
theorem criterion_sealed {f : Field} {v : Value} {meets : Record → Bool} (other : f ≠ .payload)
    (made : criterion f v = .ok meets) (r : Record) : meets r.sealed = meets r := by
  have of_column (column : Record → Cell) (kept : column r.sealed = column r)
      {value : Except ParameterError (Option Cell)}
      (made : (value.map fun c r => c.any (column r).same) = .ok meets) :
      meets r.sealed = meets r := by
    cases value with
    | error cause => cases made
    | ok c =>
        obtain rfl := Except.ok.inj made
        simp only [kept]
  unfold criterion at made
  split at made
  · obtain rfl := Except.ok.inj made
    rfl
  · obtain rfl := Except.ok.inj made
    rfl
  · obtain rfl := Except.ok.inj made
    rfl
  · exact absurd rfl other
  · exact of_column Record.timestamp rfl made
  · exact of_column Record.userId rfl made
  · exact of_column Record.idx rfl made
  · exact of_column Record.version rfl made
  · exact of_column (fun r => r.chain.tag) rfl made
  · obtain rfl := Except.ok.inj made
    rfl

theorem Store.countP_sealed {criteria : List (Record → Bool)}
    (blind : ∀ meets ∈ criteria, ∀ r : Record, meets r.sealed = meets r) :
    (s.sealed.records.countP fun r => criteria.all (· r)) =
      s.records.countP fun r => criteria.all (· r) := by
  rw [sealed, List.countP_map]
  apply List.countP_congr
  intro r _
  simp only [Function.comp_apply, List.all_eq_true]
  exact forall₂_congr fun meets member => by rw [blind meets member]

/-- A count by other columns than the payload's does not depend on the payloads. -/
theorem Database.count_sealed (conditions : List (String × Value))
    (other : ∀ condition ∈ conditions, condition.1 ≠ Field.payload.name) :
    db.sealed.count conditions = db.count conditions := by
  have opened : db.sealed.opened = db.opened := rfl
  unfold count
  rw [store_sealed, opened]
  cases parsed : conditions.mapM fun c => readCondition c.1 c.2 with
  | error cause => rfl
  | ok parts =>
      have elsewhere : ∀ part ∈ parts, part.1 ≠ .payload := by
        refine forall_mem_of_mapM (P := fun part : Field × Value => part.1 ≠ .payload) parsed ?_
        intro condition member part read payload
        apply other condition member
        rw [← field_of_readCondition read, payload]
      simp only [bind, Except.bind]
      split
      · rfl
      split
      · rfl
      cases made : parts.mapM fun c =>
          (criterion c.1 c.2).mapError (CountError.storage ∘ StorageError.parameter) with
      | error cause => cases db.store <;> rfl
      | ok criteria =>
          have blind : ∀ meets ∈ criteria, ∀ r : Record, meets r.sealed = meets r := by
            refine forall_mem_of_mapM
              (P := fun meets => ∀ r : Record, meets r.sealed = meets r) made ?_
            intro part member meets made
            cases built : criterion part.1 part.2 with
            | error cause =>
                rw [built] at made
                cases made
            | ok other =>
                rw [built] at made
                obtain rfl := Except.ok.inj made
                exact criterion_sealed (elsewhere part member) built
          cases db.store with
          | error failure => rfl
          | ok s => exact congrArg (fun n => Except.ok n) (s.countP_sealed blind)

end ChainLog
