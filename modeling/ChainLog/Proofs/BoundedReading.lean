/-
# Readings end

However the tables change while a chain is read, the reading comes to an end, and what it has is in
order (`readings_end`).  It relies on nothing but its position: a page that is not empty has records
from there up to the length that was noted, and the reading goes on behind the last one of them.
Each page so brings it one whole number further at least, and there are only so many of these.

`Turn` says what can come of a page, and `Stretch` what the records are like that a reading has from
a position on.  Both ways to read are put together from turns: one record after the other, as a
cursor does (`Cursor.exists_leg`), and as a whole (`Chain.pagesFrom_stretch`), where there is fuel
enough for all pages (`Chain.pagesFrom_add`).  The pages of a cursor are counted by its steps
(`Cursor.pagesRead`).

One more than a floating-point value without a fraction may be no more than that value.  A reading
that comes to a record that an edit has moved there finds it again and again
(`vast_position_is_repeated`).
-/
import ChainLog.Proofs.ConcurrentReaders
import ChainLog.Proofs.CountingUp
import ChainLog.Store.Edit

namespace ChainLog

set_option autoImplicit false

/-! ## Stretches -/

/-- The records stand from one position up to another, each behind the one before it. -/
structure Stretch (position stop : Cell) (l : List Record) : Prop where
  ascending : l.Pairwise fun a b => a.idx.below b.idx = true
  within : ∀ r ∈ l, position.atMost r.idx = true ∧ r.idx.below stop = true

namespace Stretch

variable {position stop next : Cell} {l m init : List Record} {last : Record}

theorem nil : Stretch position stop [] :=
  ⟨.nil, fun _ member => absurd member List.not_mem_nil⟩

theorem sublist (stretch : Stretch position stop l) (part : m.Sublist l) :
    Stretch position stop m :=
  ⟨stretch.ascending.sublist part, fun r member => stretch.within r (part.subset member)⟩

theorem atMost_last (stretch : Stretch position stop (init ++ [last])) :
    ∀ r ∈ init ++ [last], r.idx.atMost last.idx = true := by
  intro r member
  rcases List.mem_append.1 member with before | same
  · have less := (List.pairwise_append.1 stretch.ascending).2.2 r before last List.mem_cons_self
    exact Cell.atMost_of_below less
  · obtain rfl := List.mem_singleton.1 same
    exact Cell.atMost_refl _

/-- A stretch goes on at a position behind its last record. -/
theorem append (stretch : Stretch position stop (init ++ [last]))
    (behind : last.idx.below next = true) (rest : Stretch next stop m) :
    Stretch position stop ((init ++ [last]) ++ m) := by
  have member : last ∈ init ++ [last] := List.mem_append_right _ List.mem_cons_self
  have onward : position.atMost next = true :=
    Cell.atMost_trans (stretch.within last member).1 (Cell.atMost_of_below behind)
  refine ⟨List.pairwise_append.2 ⟨stretch.ascending, rest.ascending, ?_⟩, fun r member => ?_⟩
  · intro a here b later
    have before := Cell.below_of_atMost_of_below (stretch.atMost_last a here) behind
    exact Cell.below_of_below_of_atMost before (rest.within b later).1
  · rcases List.mem_append.1 member with here | later
    · exact stretch.within r here
    · obtain ⟨after, before⟩ := rest.within r later
      exact ⟨Cell.atMost_trans onward after, before⟩

end Stretch

/-! ## Turning to a page -/

section

variable {s : Store} {k : Chain} {db : Database} {position stop next : Cell} {c : ChainName}
  {view : Nat → Database} {tables : Nat → Store}

/-- What stands in the chain from a position up to another can be counted up. -/
def Store.CountsUp (s : Store) (c : ChainName) (position stop : Cell) : Prop :=
  ∀ r ∈ s.ofChain c, position.atMost r.idx = true → r.idx.below stop = true → ¬ r.idx.IsWholeReal

theorem Store.CountsUp.mono (counts : s.CountsUp c position stop)
    (onward : position.atMost next = true) : s.CountsUp c next stop :=
  fun r member after before => counts r member (Cell.atMost_trans onward after) before

/-- Whenever a reading looks at the tables, their keys hold, and what stands from its position up to
the stop can be counted up.  Otherwise one look has nothing to do with another. -/
structure Chain.Looks (k : Chain) (view : Nat → Database) (tables : Nat → Store)
    (position stop : Cell) : Prop where
  found : ∀ i, (view i).store = .ok (tables i)
  keys : ∀ i, (tables i).KeysHold
  counts : ∀ i, (tables i).CountsUp k.name position stop

theorem Chain.Looks.mono (looks : k.Looks view tables position stop)
    (onward : position.atMost next = true) : k.Looks view tables next stop :=
  ⟨looks.found, looks.keys, fun i => (looks.counts i).mono onward⟩

theorem Chain.Looks.later (looks : k.Looks view tables position stop) (m : Nat) :
    k.Looks (fun i => view (m + i)) (fun i => tables (m + i)) position stop :=
  ⟨fun i => looks.found (m + i), fun i => looks.keys (m + i), fun i => looks.counts (m + i)⟩

/-- All pages from the position on can be asked for. -/
structure Chain.Askable (k : Chain) (position stop : Cell) : Prop where
  size : IsWord k.pageSize
  length : stop.parameter = .ok stop
  within : stop.atMost (.int 0x8000000000000000) = true
  least : (Cell.int (-0x8000000000000000)).atMost position = true

theorem Chain.Askable.mono (askable : k.Askable position stop)
    (onward : position.atMost next = true) : k.Askable next stop :=
  ⟨askable.size, askable.length, askable.within, Cell.atMost_trans askable.least onward⟩

theorem Chain.Askable.parameter (askable : k.Askable position stop)
    (before : position.below stop = true) (number : position.rank = 0) :
    position.parameter = .ok position := by
  cases position with
  | int n =>
      have least := askable.least
      have less := Cell.below_of_below_of_atMost before askable.within
      rw [Cell.atMost_int, decide_eq_true_eq] at least
      rw [Cell.below_int, decide_eq_true_eq] at less
      exact Cell.parameter_int ⟨least, less⟩
  | real bits => rfl
  | text x => cases number
  | blob content => cases number

/-- What comes of a position at which a reading turns to its next page. -/
inductive Turn (k : Chain) (db : Database) (stop position : Cell) : Prop
  /-- The length is no number. -/
  | refused (compared : position.isBelow? stop =
        .error (.notOrdered position.value.typeName stop.value.typeName))
      (unmeasured : stop.rank ≠ 0)
  | past (compared : position.isBelow? stop = .ok false)
  | failed (e : StorageError) (compared : position.isBelow? stop = .ok true)
      (read : db.page k position stop = .error e) (unaskable : ¬ k.Askable position stop)
  | none (compared : position.isBelow? stop = .ok true) (read : db.page k position stop = .ok [])
  /-- The reading goes on behind the last record of the page. -/
  | page (init : List Record) (last : Record) (next : Cell)
      (compared : position.isBelow? stop = .ok true)
      (read : db.page k position stop = .ok (init ++ [last]))
      (stretch : Stretch position stop (init ++ [last])) (counted : last.idx.next? = .ok next)
      (behind : last.idx.below next = true) (follows : position.Follows next)

theorem Store.page_stretch (keys : s.KeysHold) :
    Stretch position stop (s.page k position stop) := by
  have window : Stretch position stop (s.window k.name position stop) :=
    ⟨window_strict keys, fun r member => (mem_window.1 member).2.2⟩
  exact window.sublist (limit_sublist _ _)

/-- A page that is not empty has a last record, and a position that follows it. -/
theorem Store.CountsUp.page (counts : s.CountsUp k.name position stop) (keys : s.KeysHold)
    (measured : stop.rank = 0) (some : s.page k position stop ≠ []) :
    ∃ init last next, s.page k position stop = init ++ [last] ∧
      Stretch position stop (init ++ [last]) ∧ last.idx.next? = .ok next ∧
      last.idx.below next = true ∧ position.Follows next := by
  obtain ⟨init, last, split⟩ : ∃ init last, s.page k position stop = init ++ [last] :=
    ⟨_, _, (List.dropLast_concat_getLast some).symm⟩
  have stretch : Stretch position stop (init ++ [last]) := split ▸ Store.page_stretch keys
  have member : last ∈ s.page k position stop := by
    rw [split]
    exact List.mem_append_right _ List.mem_cons_self
  obtain ⟨stored, chain, after, before⟩ := mem_window.1 ((limit_sublist _ _).subset member)
  have number : last.idx.rank = 0 := by
    have := Cell.rank_le_of_atMost (Cell.atMost_of_below before)
    omega
  have fraction := counts last (mem_ofChain.2 ⟨stored, chain⟩) after before
  obtain ⟨next, counted, follows⟩ := Cell.moves_on number fraction
  exact ⟨init, last, next, split, stretch, counted, follows.below, follows.of_atMost after⟩

/-- A turn in tables that obey their keys. -/
theorem turn_cases (found : db.store = .ok s) (keys : s.KeysHold)
    (counts : s.CountsUp k.name position stop) (number : position.rank = 0) :
    Turn k db stop position := by
  by_cases measured : stop.rank = 0
  · have compared := Cell.isBelow?_of_rank (number.trans measured.symm)
    cases before : position.below stop with
    | false =>
        rw [before] at compared
        exact .past compared
    | true =>
        rw [before] at compared
        cases read : db.page k position stop with
        | error e =>
            refine .failed e compared read fun askable => ?_
            rw [(Database.page_eq_ok_iff found).2
              ⟨askable.parameter before number, askable.length, askable.size, rfl⟩] at read
            cases read
        | ok l =>
            obtain ⟨-, -, -, rfl⟩ := (Database.page_eq_ok_iff found).1 read
            by_cases empty : s.page k position stop = []
            · exact .none compared (empty ▸ read)
            · obtain ⟨init, last, next, split, stretch, counted, behind, follows⟩ :=
                counts.page keys measured empty
              exact .page init last next compared (split ▸ read) stretch counted behind follows
  · have differ : position.rank ≠ stop.rank := fun same => measured (same.symm.trans number)
    exact .refused (Cell.isBelow?_of_rank_ne differ) measured

/-- What comes of the position in the tables that one of the looks finds. -/
theorem Chain.Looks.turn (looks : k.Looks view tables position stop) (number : position.rank = 0)
    (i : Nat) : Turn k (view i) stop position :=
  turn_cases (looks.found i) (looks.keys i) (looks.counts i) number

theorem lt_of_below {m n : Int} (before : position.below stop = true)
    (least : (Cell.int m).atMost position = true) (most : stop.atMost (.int n) = true) : m < n := by
  have less := Cell.below_of_below_of_atMost (Cell.below_of_atMost_of_below least before) most
  rwa [Cell.below_int, decide_eq_true_eq] at less

end

/-! ## Runs of a cursor -/

namespace Cursor

/-- There is still something to be asked for at the position. -/
def asksAt (stop position : Cell) : Bool := position.isBelow? stop matches .ok true

/-- The next step of the cursor reads a page. -/
def readsPage (db : Database) : Cursor → Bool
  | fresh k =>
      match db.store with
      | .error _ => false
      | .ok s => asksAt (s.lengthOf k.name) k.start
  | reading _ stop [] last =>
      match last.next? with
      | .error _ => false
      | .ok position => asksAt stop position
  | reading _ _ (_ :: _) _ | done => false

def fails (db : Database) (c : Cursor) : Bool := (c.next db).2 matches .error _

/-- The record that the next step of the cursor gives. -/
def record? (db : Database) (c : Cursor) : Option Record := (c.next db).2.toOption.join

/-- The records that the first `n` steps give. -/
def given (c : Cursor) (view : Nat → Database) (n : Nat) : List Record :=
  (List.range n).filterMap fun i => (c.after view i).record? (view i)

/-- How many of the first `n` steps are of a kind. -/
def stepsThat (p : Database → Cursor → Bool) (c : Cursor) (view : Nat → Database) (n : Nat) : Nat :=
  (List.range n).countP fun i => p (view i) (c.after view i)

def pagesRead : Cursor → (Nat → Database) → Nat → Nat := stepsThat readsPage

def failures : Cursor → (Nat → Database) → Nat → Nat := stepsThat fails

section

variable {view : Nat → Database} {c c' c'' : Cursor} {m n pages pages' errors errors' : Nat}
  {k : Chain} {stop position last : Cell} {l l' : List Record} {db : Database} {s : Store}

theorem asksAt_eq_true_iff : asksAt stop position = true ↔ position.isBelow? stop = .ok true := by
  unfold asksAt
  split
  · rename_i compared
    exact ⟨fun _ => compared, fun _ => rfl⟩
  · rename_i other
    exact ⟨nofun, fun compared => absurd compared other⟩

theorem after_add (c : Cursor) (view : Nat → Database) (m n : Nat) :
    c.after view (m + n) = (c.after view m).after (fun i => view (m + i)) n := by
  induction n with
  | zero => rfl
  | succ n ih =>
      show ((c.after view (m + n)).next (view (m + n))).1 = _
      rw [ih]
      rfl

theorem given_add (c : Cursor) (view : Nat → Database) (m n : Nat) :
    c.given view (m + n) = c.given view m ++ (c.after view m).given (fun i => view (m + i)) n := by
  unfold given
  rw [List.range_add, List.filterMap_append, List.filterMap_map]
  simp only [Function.comp_def, after_add]

theorem stepsThat_add (p : Database → Cursor → Bool) (c : Cursor) (view : Nat → Database)
    (m n : Nat) : c.stepsThat p view (m + n) =
      c.stepsThat p view m + (c.after view m).stepsThat p (fun i => view (m + i)) n := by
  unfold stepsThat
  rw [List.range_add, List.countP_append, List.countP_map]
  simp only [Function.comp_def, after_add]

theorem given_one (c : Cursor) (view : Nat → Database) :
    c.given view 1 = (c.record? (view 0)).toList := by
  show [0].filterMap (fun i => (c.after view i).record? (view i)) = _
  cases given : c.record? (view 0) <;> simp [after, given]

theorem stepsThat_one (p : Database → Cursor → Bool) (c : Cursor) (view : Nat → Database) :
    c.stepsThat p view 1 = (p (view 0) c).toNat := by
  show [0].countP (fun i => p (view i) (c.after view i)) = _
  cases holds : p (view 0) c <;> simp [after, holds]

/-- Some steps of a cursor: the records that they give, how many of them read a page and how many
fail, and the cursor behind them. -/
structure Leg (c : Cursor) (view : Nat → Database) (n : Nat) (l : List Record)
    (pages errors : Nat) (c' : Cursor) : Prop where
  after : c.after view n = c'
  given : c.given view n = l
  pages : c.pagesRead view n = pages
  failures : c.failures view n = errors

theorem Leg.append (leg : c.Leg view m l pages errors c')
    (leg' : c'.Leg (fun i => view (m + i)) n l' pages' errors' c'') :
    c.Leg view (m + n) (l ++ l') (pages + pages') (errors + errors') c'' := by
  obtain ⟨rfl, rfl, rfl, rfl⟩ := leg
  obtain ⟨rfl, rfl, rfl, rfl⟩ := leg'
  exact ⟨after_add c view m n, given_add c view m n, stepsThat_add _ c view m n,
    stepsThat_add _ c view m n⟩

theorem Leg.step (c : Cursor) (view : Nat → Database) :
    c.Leg view 1 (c.record? (view 0)).toList (c.readsPage (view 0)).toNat
      (c.fails (view 0)).toNat (c.next (view 0)).1 :=
  ⟨rfl, given_one c view, stepsThat_one _ c view, stepsThat_one _ c view⟩

/-- A cursor that has come to its end stays there. -/
theorem Leg.ended (view : Nat → Database) (n : Nat) : done.Leg view n [] 0 0 done := by
  induction n with
  | zero => exact ⟨rfl, rfl, rfl, rfl⟩
  | succ n ih => exact ih.append (.step .done fun i => view (n + i))

/-- The rest of a page is handed out without looking at the tables. -/
theorem Leg.rest (k : Chain) (stop last : Cell) (rest : List Record) (view : Nat → Database) :
    (reading k stop rest last).Leg view rest.length rest 0 0 (reading k stop [] last) := by
  induction rest generalizing view with
  | nil => exact ⟨rfl, rfl, rfl, rfl⟩
  | cons r rest ih =>
      have all := (Leg.step (reading k stop (r :: rest) last) view).append
        (ih fun i => view (1 + i))
      rw [Nat.add_comm] at all
      exact all

/-- What a reading has from a position on: records in order, and no more pages than there are whole
numbers up to the stop. -/
structure Orderly (k : Chain) (position stop : Cell) (l : List Record) (pages errors : Nat) :
    Prop where
  stretch : Stretch position stop l
  bounded : ∀ m n : Int, (Cell.int m).atMost position = true → stop.atMost (.int n) = true →
    pages ≤ (n - m).toNat
  unmeasured : stop.rank ≠ 0 → pages = 0
  answered : k.Askable position stop → errors = 0

theorem Orderly.final (number : position.rank = 0)
    (answered : k.Askable position stop → errors = 0) :
    Orderly k position stop [] (asksAt stop position).toNat errors := by
  cases asks : asksAt stop position with
  | false => exact ⟨.nil, fun _ _ _ _ => Nat.zero_le _, fun _ => rfl, answered⟩
  | true =>
      obtain ⟨same, before⟩ := Cell.isBelow?_eq_true_iff.1 (asksAt_eq_true_iff.1 asks)
      refine ⟨.nil, fun m n least most => ?_, fun unmeasured => ?_, answered⟩
      · have less := lt_of_below before least most
        show 1 ≤ _
        omega
      · exact absurd (same.symm.trans number) unmeasured

theorem Orderly.page {init : List Record} {r : Record} {next : Cell} (number : position.rank = 0)
    (compared : position.isBelow? stop = .ok true) (stretch : Stretch position stop (init ++ [r]))
    (behind : r.idx.below next = true) (follows : position.Follows next)
    (rest : Orderly k next stop l pages errors) :
    Orderly k position stop (init ++ [r] ++ l) (1 + pages) errors := by
  obtain ⟨same, before⟩ := Cell.isBelow?_eq_true_iff.1 compared
  refine ⟨stretch.append behind rest.stretch, fun m n least most => ?_, fun unmeasured => ?_,
    fun askable => rest.answered (askable.mono (Cell.atMost_of_below follows.below))⟩
  · have later := rest.bounded (m + 1) n (follows.further m least) most
    have less := lt_of_below before least most
    omega
  · exact absurd (same.symm.trans number) unmeasured

/-- The next step of the cursor turns to a page. -/
structure TurnsAt (c : Cursor) (db : Database) (k : Chain) (stop position : Cell) : Prop where
  next : c.next db = turn db k stop position
  reads : c.readsPage db = asksAt stop position

theorem turnsAt_reading (counted : last.next? = .ok position) (db : Database) :
    (reading k stop [] last).TurnsAt db k stop position := by
  refine ⟨?_, ?_⟩
  · simp only [Cursor.next, counted]
  · simp only [readsPage, counted]

theorem turnsAt_fresh (found : db.store = .ok s) :
    (fresh k).TurnsAt db k (s.lengthOf k.name) k.start := by
  refine ⟨?_, ?_⟩
  · simp only [Cursor.next, found]
  · simp only [readsPage, found]

/-- A turn without a page is the last step. -/
theorem TurnsAt.exists_leg (turns : c.TurnsAt (view 0) k stop position) (number : position.rank = 0)
    {answer : Except ReadFailure (Option Record)}
    (ends : turn (view 0) k stop position = (.done, answer))
    (answers : answer = .ok none ∨ ¬ k.Askable position stop ∧ ∃ e, answer = .error e) :
    ∃ n l pages errors, c.Leg view n l pages errors .done ∧
      Orderly k position stop l pages errors := by
  have next := turns.next.trans ends
  have leg := Leg.step c view
  have silent : c.record? (view 0) = none := by
    rw [Cursor.record?, next]
    rcases answers with rfl | ⟨-, e, rfl⟩ <;> rfl
  rw [next, silent, turns.reads] at leg
  refine ⟨_, _, _, _, leg, .final number fun askable => ?_⟩
  rcases answers with rfl | ⟨unaskable, -⟩
  · rw [fails, next]
    rfl
  · exact absurd askable unaskable

/-- A turn to a page, and the steps that hand it out. -/
theorem TurnsAt.page_leg (turns : c.TurnsAt (view 0) k stop position) {init : List Record}
    {r : Record} (compared : position.isBelow? stop = .ok true)
    (read : (view 0).page k position stop = .ok (init ++ [r])) :
    ∃ n, c.Leg view n (init ++ [r]) 1 0 (reading k stop [] r.idx) := by
  obtain ⟨q, rest, split⟩ : ∃ q rest, init ++ [r] = q :: rest :=
    List.exists_cons_of_ne_nil (List.append_ne_nil_of_right_ne_nil init (List.cons_ne_nil r []))
  have ends : (q :: rest).getLast (List.cons_ne_nil q rest) = r := by
    simp only [← split, List.getLast_concat]
  have next : c.next (view 0) = (reading k stop rest r.idx, .ok (some q)) := by
    rw [turns.next, turn, compared, read, split, ← ends]
  have leg := Leg.step c view
  have gives : c.record? (view 0) = some q := by
    rw [Cursor.record?, next]
    rfl
  have answers : c.fails (view 0) = false := by rw [fails, next]
  rw [next, gives, turns.reads, asksAt_eq_true_iff.2 compared, answers] at leg
  rw [split]
  exact ⟨_, leg.append (.rest k stop r.idx rest _)⟩

/-- **A run of a cursor.**  It comes to its end, since each page leaves fewer whole numbers between
the position and the stop. -/
theorem exists_leg {tables : Nat → Store} (remaining : Nat)
    (looks : k.Looks view tables position stop) (number : position.rank = 0)
    (turns : c.TurnsAt (view 0) k stop position)
    (enough : stop.rank = 0 → ∃ m n : Int, (Cell.int m).atMost position = true ∧
      stop.atMost (.int n) = true ∧ n ≤ m + remaining) :
    ∃ n l pages errors, c.Leg view n l pages errors .done ∧
      Orderly k position stop l pages errors := by
  induction remaining using Nat.strongRecOn generalizing view tables position c with
  | ind remaining ih =>
    cases looks.turn number 0 with
    | refused compared unmeasured =>
        refine turns.exists_leg number (by rw [turn, compared]) (.inr ⟨?_, _, rfl⟩)
        intro askable
        have := Cell.rank_le_of_atMost askable.within
        exact unmeasured (Nat.le_zero.1 this)
    | past compared => exact turns.exists_leg number (by rw [turn, compared]) (.inl rfl)
    | failed e compared read unaskable =>
        exact turns.exists_leg number (by rw [turn, compared, read]) (.inr ⟨unaskable, _, rfl⟩)
    | none compared read => exact turns.exists_leg number (by rw [turn, compared, read]) (.inl rfl)
    | page init r next compared read stretch counted behind follows =>
        obtain ⟨same, before⟩ := Cell.isBelow?_eq_true_iff.1 compared
        obtain ⟨m, n, least, most, within⟩ := enough (same.symm.trans number)
        have less := lt_of_below before least most
        have onward := Cell.atMost_of_below follows.below
        obtain ⟨first, leg⟩ := turns.page_leg compared read
        -- From here on the reading finds the tables behind the steps of the page.
        obtain ⟨steps, l, pages, errors, leg', orderly⟩ :=
          ih (remaining - 1) (by omega) ((looks.mono onward).later first) follows.number
            (turnsAt_reading counted _) fun _ => ⟨m + 1, n, follows.further m least, most, by omega⟩
        have whole := leg.append leg'
        rw [Nat.zero_add] at whole
        exact ⟨_, _, _, _, whole, .page number compared stretch behind follows orderly⟩

end

end Cursor

/-! ## Whole readings -/

namespace Chain

variable {k : Chain} {view : Nat → Database} {tables : Nat → Store} {stop position : Cell}

theorem pagesFrom_stretch (looks : k.Looks view tables position stop)
    (number : position.rank = 0) (fuel i : Nat) :
    Stretch position stop (k.pagesFrom view stop fuel i position).records := by
  induction fuel generalizing i position with
  | zero => exact .nil
  | succ fuel ih =>
      unfold pagesFrom
      cases looks.turn number i with
      | refused compared unmeasured =>
          rw [compared]
          exact .nil
      | past compared =>
          rw [compared]
          exact .nil
      | failed e compared read unaskable =>
          rw [compared, read]
          exact .nil
      | none compared read =>
          rw [compared, read]
          exact .nil
      | page init r next compared read stretch counted behind follows =>
          have onward := Cell.atMost_of_below follows.below
          simp only [compared, read, List.getLast?_concat, counted, behind, if_true]
          exact stretch.append behind (ih (looks.mono onward) follows.number (i + 1))

theorem pagesFrom_succ (looks : k.Looks view tables position stop) (number : position.rank = 0)
    {m n : Int} (least : (Cell.int m).atMost position = true) (most : stop.atMost (.int n) = true)
    (fuel i : Nat) (enough : n ≤ m + fuel) :
    k.pagesFrom view stop (fuel + 1) i position = k.pagesFrom view stop fuel i position := by
  induction fuel generalizing i position m with
  | zero =>
      have measured : stop.rank = 0 := Nat.le_zero.1 (Cell.rank_le_of_atMost most)
      have past : position.below stop = false := by
        refine Bool.eq_false_iff.2 fun before => ?_
        have less := lt_of_below before least most
        omega
      unfold pagesFrom
      rw [Cell.isBelow?_of_rank (number.trans measured.symm), past]
  | succ fuel ih =>
      unfold pagesFrom
      cases looks.turn number i with
      | refused compared unmeasured => simp only [compared]
      | past compared => simp only [compared]
      | failed e compared read unaskable => simp only [compared, read]
      | none compared read => simp only [compared, read, List.getLast?_nil]
      | page init r next compared read stretch counted behind follows =>
          have onward := Cell.atMost_of_below follows.below
          have later := ih (looks.mono onward) follows.number (follows.further m least) (i + 1)
            (by omega)
          simp only [compared, read, List.getLast?_concat, counted, behind, if_true, later]

/-- **Enough fuel.**  A reading ends of itself where it has fuel for a page at each whole number
from its position up to the stop. -/
theorem pagesFrom_add (looks : k.Looks view tables position stop) (number : position.rank = 0)
    {m n : Int} (least : (Cell.int m).atMost position = true) (most : stop.atMost (.int n) = true)
    {fuel : Nat} (i : Nat) (enough : n ≤ m + fuel) (more : Nat) :
    k.pagesFrom view stop (fuel + more) i position = k.pagesFrom view stop fuel i position := by
  induction more with
  | zero => rfl
  | succ more ih =>
      rw [← Nat.add_assoc, pagesFrom_succ looks number least most (fuel + more) i (by omega), ih]

end Chain

/-! ## Ends -/

section

variable {k : Chain} {view : Nat → Database} {tables : Nat → Store} {start : Int} {stop : Cell}

/-- After `n` steps the cursor of a reading has come to its end.  All the records it has given stand
from the start up to the stop, in order; if the stop is a number, it has read no more pages than
there are whole numbers from the start up to it. -/
structure Chain.EndedAfter (k : Chain) (view : Nat → Database) (start : Int) (stop : Cell)
    (n : Nat) : Prop where
  ended : (Cursor.fresh k).after view n = .done
  records : Stretch (.int start) stop ((Cursor.fresh k).given view n)
  pages : ∀ m : Int, stop.atMost (.int m) = true →
    (Cursor.fresh k).pagesRead view n ≤ (m - start).toNat
  /-- No step fails, if the stop is not past all positions. -/
  answered : stop.parameter = .ok stop → stop.atMost (.int 0x8000000000000000) = true →
    (Cursor.fresh k).failures view n = 0
  /-- A stop that is no number cannot be compared with. -/
  refused : stop.rank ≠ 0 → (Cursor.fresh k).pagesRead view n = 0 ∧
    ((Cursor.fresh k).next (view 0)).2 =
      .error (.operand (.notOrdered "int" stop.value.typeName))

theorem Chain.Looks.exists_endedAfter (looks : k.Looks view tables (.int start) stop)
    (begins : k.start = .int start) (position : IsWord start) (word : IsWord k.pageSize)
    (noted : (tables 0).lengthOf k.name = stop) :
    ∃ steps, ∀ n, steps ≤ n → k.EndedAfter view start stop n := by
  have turns := Cursor.turnsAt_fresh (k := k) (looks.found 0)
  rw [noted, begins] at turns
  have reach : ∃ remaining : Nat, stop.rank = 0 → ∃ m n : Int,
      (Cell.int m).atMost (.int start) = true ∧ stop.atMost (.int n) = true ∧
        n ≤ m + remaining := by
    by_cases measured : stop.rank = 0
    · obtain ⟨n, most⟩ := Cell.exists_atMost_int measured
      exact ⟨(n - start).toNat, fun _ => ⟨start, n, Cell.atMost_refl _, most, by omega⟩⟩
    · exact ⟨0, fun measured' => absurd measured' measured⟩
  obtain ⟨remaining, enough⟩ := reach
  obtain ⟨steps, l, pages, errors, run, orderly⟩ :=
    Cursor.exists_leg remaining looks rfl turns enough
  refine ⟨steps, fun n past => ?_⟩
  obtain ⟨more, rfl⟩ := Nat.exists_eq_add_of_le past
  have leg := run.append (.ended _ more)
  rw [List.append_nil] at leg
  refine ⟨leg.after, ?_, ?_, fun stored within => ?_, fun unmeasured => ⟨?_, ?_⟩⟩
  · rw [leg.given]
    exact orderly.stretch
  · intro m most
    rw [leg.pages]
    exact orderly.bounded start m (Cell.atMost_refl _) most
  · rw [leg.failures]
    refine orderly.answered ⟨word, stored, within, ?_⟩
    rw [Cell.atMost_int, decide_eq_true_eq]
    exact position.1
  · rw [leg.pages]
    exact orderly.unmeasured unmeasured
  · have differ : (Cell.int start).rank ≠ stop.rank := fun same => unmeasured same.symm
    rw [turns.next, Cursor.turn, Cell.isBelow?_of_rank_ne differ]
    rfl

/-- The fuel of a whole reading is enough. -/
theorem Chain.Looks.readWith (looks : k.Looks view tables (.int start) stop)
    (begins : k.start = .int start) {db : Database} {s : Store} (found : db.store = .ok s)
    (noted : s.lengthOf k.name = stop) {n : Int} (most : stop.atMost (.int n) = true) {fuel : Nat}
    (enough : (n - start).toNat ≤ fuel) :
    k.pagesFrom view stop fuel 0 k.start = k.readWith db view := by
  have measured : stop.rank = 0 := Nat.le_zero.1 (Cell.rank_le_of_atMost most)
  have bounded := Cell.atMost_pageBound measured start
  unfold Chain.readWith Chain.readUpTo
  rw [found, begins]
  simp only [noted]
  rcases Nat.le_total fuel (Chain.pageBound (.int start) stop) with less | less
  · obtain ⟨more, same⟩ := Nat.exists_eq_add_of_le less
    rw [same, Chain.pagesFrom_add looks rfl (Cell.atMost_refl _) most 0 (by omega) more]
  · obtain ⟨more, rfl⟩ := Nat.exists_eq_add_of_le less
    exact Chain.pagesFrom_add looks rfl (Cell.atMost_refl _) bounded 0 (Int.le_refl _) more

/-- **Readings end.**  A reading looks at the tables at its first step, and whenever it turns to a
page; each time it may find any others that obey their keys, as long as what they have of the chain
between the start and the noted length can be counted up.  Its cursor comes to an end all the same,
and till then it gives records in the order of their positions, none of them twice, and reads no
more pages than there are whole numbers from the start up to the length.  (The tip rows have nothing
to do with the records, so the length that is noted first may be any.)

So does a reading as a whole, whose pages each find tables of their own: no fuel makes it longer
than what is enough for these pages. -/
theorem readings_end (begins : k.start = .int start) (position : IsWord start)
    (word : IsWord k.pageSize) (found : ∀ i, (view i).store = .ok (tables i))
    (keys : ∀ i, (tables i).KeysHold)
    (counts : ∀ i, (tables i).CountsUp k.name (.int start) stop) :
    ((tables 0).lengthOf k.name = stop →
        ∃ steps, ∀ n, steps ≤ n → k.EndedAfter view start stop n) ∧
      ∀ db s, db.store = .ok s → s.lengthOf k.name = stop →
        Stretch (.int start) stop (k.readWith db view).records ∧
          ∀ n : Int, stop.atMost (.int n) = true → ∀ fuel, (n - start).toNat ≤ fuel →
            k.pagesFrom view stop fuel 0 k.start = k.readWith db view := by
  have looks : k.Looks view tables (.int start) stop := ⟨found, keys, counts⟩
  refine ⟨looks.exists_endedAfter begins position word, fun db s found noted => ⟨?_, ?_⟩⟩
  · unfold Chain.readWith Chain.readUpTo
    rw [found, begins]
    simp only [noted]
    exact Chain.pagesFrom_stretch looks rfl _ 0
  · exact fun n most fuel enough => looks.readWith begins found noted most enough

/-- A reading of a chain with a record at a fraction, whose tables are replaced after its first
page. -/
theorem readings_end_of_changes :
    let c : ChainName := ⟨.ofNat 7, .text "history"⟩
    let record (id : Nat) (idx : Cell) : Record :=
      ⟨.ofNat id, c, Uuid.nil, .int 0, .text "v0", [], .int 0, idx, default⟩
    let half : Cell := .real 0x3fe0000000000000
    let before : Store := ⟨[record 3 (.int 2), record 1 (.int 0), record 2 half],
      [⟨c, .int 0, .ofNat 3, .int 3, default⟩]⟩
    let after : Store := ⟨[record 4 (.int 2), record 5 (.int 1)], []⟩
    let tables (i : Nat) : Store := if i = 0 then before else after
    let view (i : Nat) : Database := ⟨true, some (tables i), none⟩
    ∃ steps, ∀ n, steps ≤ n → Chain.EndedAfter ⟨c, .int 0, 2⟩ view 0 (.int 3) n := by
  intro c record half before after tables view
  have keys : ∀ i, (tables i).KeysHold := by
    intro i
    show (if i = 0 then before else after).KeysHold
    split
    · exact ⟨by decide +kernel, by decide⟩
    · exact ⟨by decide, by decide⟩
  have counts : ∀ i, (tables i).CountsUp c (.int 0) (.int 3) := by
    intro i r member _ _
    have stored := (Store.mem_ofChain.1 member).1
    change r ∈ (if i = 0 then before else after).records at stored
    split at stored
    · simp only [before, List.mem_cons, List.not_mem_nil, or_false] at stored
      rcases stored with rfl | rfl | rfl
      · exact not_false
      · exact not_false
      · show ¬ half.IsWholeReal
        decide +kernel
    · simp only [after, List.mem_cons, List.not_mem_nil, or_false] at stored
      rcases stored with rfl | rfl <;> exact not_false
  exact (@readings_end ⟨c, .int 0, 2⟩ view tables 0 (.int 3) rfl (by decide) (by decide)
    (fun _ => rfl) keys counts).1 rfl

/-- Without a fraction a position may be counted up to itself: here a reading finds the record that
an edit has moved to 9.3e18 at each step, and never ends.  And there may be one page more than a
length that is no whole number: two pages of one record each are read up to 1.5. -/
theorem vast_position_is_repeated :
    let c : ChainName := ⟨.ofNat 7, .text "history"⟩
    let record (id : Nat) (idx : Cell) : Record :=
      ⟨.ofNat id, c, Uuid.nil, .int 0, .text "v0", [], .int 0, idx, default⟩
    let store (length idx : Cell) : Store :=
      ⟨[record 1 (.int 0), record 2 idx], [⟨c, .int 0, .ofNat 2, length, default⟩]⟩
    let db (length idx : Cell) : Database := ⟨true, some (store length idx), none⟩
    let reader (size : Int) : Cursor := .fresh ⟨c, .int 0, size⟩
    let vast : Cell := .real 0x43e02207973f6440
    let far : Cell := .real 0x43e158e460913d00
    let half : Cell := .real 0x3ff8000000000000
    let edited (length idx : Value) := (db (.int 2) (.int 1)).edit default
      [.setTip (.uuid (.ofNat 7)) (.text "history") [(.length, length)],
        .setRecord (.uuid (.ofNat 2)) [(.idx, idx)]] false
    (edited (.float (.ofBits 0x43e158e460913d00)) (.float (.ofBits 0x43e02207973f6440)) =
        .ok (db far vast) ∧ (store far vast).KeysHold ∧
      ∀ n, ((reader 100).after (fun _ => db far vast) (n + 1)).record? (db far vast) =
        some (record 2 vast)) ∧
    edited (.float (.ofBits 0x3ff8000000000000)) (.int 1) = .ok (db half (.int 1)) ∧
      (store half (.int 1)).KeysHold ∧ half.below (.int 2) = true ∧
      (reader 1).pagesRead (fun _ => db half (.int 1)) 2 = 2 := by
  intro c record store db reader vast far half edited
  let k : Chain := ⟨c, .int 0, 100⟩
  have again : (Cursor.reading k far [] vast).next (db far vast) =
      (.reading k far [] vast, .ok (some (record 2 vast))) := by rfl
  have later : ∀ n, (reader 100).after (fun _ => db far vast) (n + 2) = .reading k far [] vast := by
    intro n
    induction n with
    | zero => rfl
    | succ n ih =>
        show (((reader 100).after (fun _ => db far vast) (n + 2)).next (db far vast)).1 = _
        rw [ih, again]
  refine ⟨⟨rfl, ⟨by decide +kernel, by decide⟩, fun n => ?_⟩, rfl, ⟨by decide +kernel, by decide⟩,
    by decide +kernel, by decide +kernel⟩
  cases n with
  | zero => rfl
  | succ n =>
      rw [later n, Cursor.record?, again]
      rfl

end

end ChainLog
