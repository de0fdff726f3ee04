/-
# Reading a linked chain

Linked records ascend from 0 on, so a reading of them has exactly those from its start on,
whatever the size of the pages (`readUpTo_of_shows`).  The tables may grow between the pages: all
that a page needs is that the records up to the noted length are still the first of their chain
(`Shows`).

The check of a chain walks over linked records until it has as many as the tip row says
(`walk_append`); more may follow them.
-/
import ChainLog.Proofs.SoundStore
import ChainLog.Proofs.WindowReading
import ChainLog.Verification

namespace ChainLog

set_option autoImplicit false

variable {parent : Uuid} {start p : Nat} {n : Int} {l m : List Record} {s s' t : Store}
  {c : ChainName} {stop length : Cell}

/-! ## Windows -/

/-- Linked records stand at integers from the first position on. -/
theorem Linked.placed {r : Record} (linked : Linked parent start l) (member : r ∈ l) :
    ∃ i : Nat, r.idx = .int i ∧ start ≤ i ∧ i < start + l.length := by
  obtain ⟨i, idx⟩ := linked.idx_int member
  obtain ⟨after, found⟩ := linked.getElem?_of_idx member idx
  have inside := (List.getElem?_eq_some_iff.1 found).1
  exact ⟨i, idx, after, by omega⟩

theorem Linked.ascending (linked : Linked parent start l) :
    Ascending l ((start + l.length : Nat) : Int) := by
  refine ⟨?_, fun r member => ?_⟩
  · induction l generalizing parent start with
    | nil => exact .nil
    | cons r l ih =>
        obtain ⟨-, idx, rest⟩ := linked
        refine List.pairwise_cons.2 ⟨fun q member => ?_, ih rest⟩
        obtain ⟨i, position, after, -⟩ := rest.placed member
        rw [idx, position, Cell.below_int, decide_eq_true_eq]
        omega
  · obtain ⟨i, idx, -, before⟩ := linked.placed member
    exact ⟨i, idx, by omega⟩

/-- The linked records at a position or after it. -/
theorem Linked.standingFrom (linked : Linked parent start l) :
    standingFrom p l = l.drop (p - start) := by
  unfold ChainLog.standingFrom
  induction l generalizing parent start with
  | nil => simp
  | cons r l ih =>
      obtain ⟨-, idx, rest⟩ := linked
      have stands : (Cell.int p).atMost r.idx = decide ((p : Int) ≤ start) := by
        rw [idx, Cell.atMost_int]
      by_cases before : p ≤ start
      · rw [List.filter_cons_of_pos (by rw [stands, decide_eq_true_eq]; omega), ih rest]
        rw [show p - (start + 1) = 0 by omega, show p - start = 0 by omega]
        rfl
      · rw [List.filter_cons_of_neg (by rw [stands, decide_eq_true_eq]; omega), ih rest]
        rw [show p - start = p - (start + 1) + 1 by omega, List.drop_succ_cons]

/-- The records are the first of their chain. -/
structure Store.Shows (t : Store) (c : ChainName) (l : List Record) : Prop where
  linked : Linked Uuid.nil 0 (t.ofChain c)
  first : l <+: t.ofChain c

theorem Store.Sound.shows (sound : s.Sound) (first : l <+: s.ofChain c) : s.Shows c l :=
  ⟨sound.linked c, first⟩

/-- What shows the records shows those that follow them from their number on. -/
theorem Store.Shows.split (shows : t.Shows c l) :
    ∃ m, t.ofChain c = l ++ m ∧ Linked Uuid.nil 0 l ∧ Linked (lastId Uuid.nil l) l.length m := by
  obtain ⟨m, split⟩ := shows.first
  have linked := shows.linked
  rw [← split, linked_append, Nat.zero_add] at linked
  exact ⟨m, split.symm, linked⟩

theorem Store.Shows.window (shows : t.Shows c l) (ends : stop.Ends l.length) :
    t.window c (.int p) stop = standingFrom p l := by
  obtain ⟨m, split, linked, after⟩ := shows.split
  have inside : l.filter (fun r => (Cell.int p).atMost r.idx && r.idx.below stop) =
      standingFrom p l := by
    refine List.filter_congr fun r member => ?_
    obtain ⟨i, idx, -, before⟩ := linked.placed member
    rw [idx, ends.below, decide_eq_true (by omega), Bool.and_true]
  have outside : m.filter (fun r => (Cell.int p).atMost r.idx && r.idx.below stop) = [] := by
    refine List.filter_eq_nil_iff.2 fun r member => ?_
    obtain ⟨i, idx, beyond, -⟩ := after.placed member
    rw [idx, ends.below, decide_eq_false (by omega), Bool.and_false]
    exact Bool.false_ne_true
  unfold Store.window
  rw [split, List.filter_append, inside, outside, List.append_nil]
  exact Sorted.sort_of_pairwise ((linked.ascending.standing p).strict.imp Cell.atMost_of_below)

/-! ## Readings -/

namespace Chain

variable {view : Nat → Database} {k : Chain} {db : Database}

theorem sees_of_shows (within : l.length ≤ 0x8000000000000000)
    (views : ∀ i, ∃ t, (view i).store = .ok t ∧ t.Shows k.name l) :
    k.Sees view (.counted l.length) l := by
  intro i
  obtain ⟨t, found, shows⟩ := views i
  exact ⟨t, found, fun p => shows.window (Cell.ends_counted within)⟩

/-- **Paging is invisible.**  A reading up to the number of records that stay the first of their
chain has all of these from its start on. -/
theorem readUpTo_of_shows (word : IsWord k.pageSize) (nonzero : k.pageSize ≠ 0)
    (within : l.length ≤ 0x8000000000000000) (begins : k.start = .int p)
    (views : ∀ i, ∃ t, (view i).store = .ok t ∧ t.Shows k.name l) :
    k.readUpTo view (.counted l.length) = ⟨l.drop p, none⟩ := by
  obtain ⟨t, -, shows⟩ := views 0
  obtain ⟨-, -, linked, -⟩ := shows.split
  have ascending := linked.ascending
  rw [Nat.zero_add] at ascending
  rw [readUpTo_of_sees word nonzero (Cell.ends_counted within) (by omega) ascending
    (sees_of_shows within views) begins, linked.standingFrom, Nat.sub_zero]

/-- A reading that notes the length in a sound store, and finds its records in every page. -/
theorem readWith_of_shows (sound : s.Sound) (found : db.store = .ok s) (word : IsWord k.pageSize)
    (nonzero : k.pageSize ≠ 0) (begins : k.start = .int p)
    (views : ∀ i, ∃ t, (view i).store = .ok t ∧ t.Shows k.name (s.ofChain k.name)) :
    k.readWith db view = ⟨(s.ofChain k.name).drop p, none⟩ := by
  unfold readWith
  simp only [found]
  rw [sound.lengthOf]
  exact readUpTo_of_shows word nonzero (sound.bounded k.name) begins views

/-- A reading of a sound store. -/
theorem read_eq (sound : s.Sound) (found : db.store = .ok s) (word : IsWord k.pageSize)
    (nonzero : k.pageSize ≠ 0) (begins : k.start = .int p) :
    k.read db = ⟨(s.ofChain k.name).drop p, none⟩ :=
  readWith_of_shows sound found word nonzero begins fun _ =>
    ⟨s, found, sound.shows (List.prefix_refl _)⟩

end Chain

/-! ## Checking -/

/-- The walk passes over linked records that all stand below the length. -/
theorem walk_append (linked : Linked parent start l)
    (below : ∀ r ∈ l, r.idx.below length = true) :
    walk c length parent start (l ++ m) = walk c length (lastId parent l) (start + l.length) m := by
  induction l generalizing parent start with
  | nil => rfl
  | cons r l ih =>
      obtain ⟨named, idx, rest⟩ := linked
      have later := ih rest fun q member => below q (List.mem_cons_of_mem r member)
      have going : length.same (.int start) = false := by
        rw [← idx]
        exact Cell.not_same_of_below (below r List.mem_cons_self)
      have placed : (Cell.int start).same (.int start) = true := Cell.same_refl _
      simp only [List.cons_append, walk, going, named, idx, placed, later, lastId_cons,
        List.length_cons]
      simp only [Bool.false_eq_true, if_false, ne_eq, not_true_eq_false, Bool.not_true]
      rw [Nat.add_assoc, Nat.add_comm 1]

/-- The walk stops when it has found enough. -/
theorem walk_of_enough (enough : length.same (.int start) = true) :
    walk c length parent start m = .ok (parent, start) := by
  cases m with
  | nil => rfl
  | cons r m => simp only [walk, enough, if_true]

/-- A tip row passes the check against its records, whatever follows them. -/
theorem Tip.Tops.check {row : Tip} (tops : row.Tops l) (linked : Linked Uuid.nil 0 l)
    (within : l.length ≤ 0x8000000000000000) :
    row.check ⟨l ++ m, none⟩ = .ok l.length := by
  have below : ∀ r ∈ l, r.idx.below row.length = true := by
    intro r member
    obtain ⟨i, idx, -, before⟩ := linked.placed member
    rw [idx, tops.length, (Cell.ends_counted within).below, decide_eq_true_eq]
    omega
  have enough : row.length.same (.int (l.length : Nat)) = true := by
    rw [tops.length]
    exact Cell.same_counted within
  have walked : walk row.chain row.length Uuid.nil 0 (l ++ m) = .ok (lastId Uuid.nil l, l.length) := by
    rw [walk_append linked below, Nat.zero_add, walk_of_enough enough]
  unfold Tip.check
  rw [walked]
  simp [enough, tops.tipId]

/-- The check of a chain finds the length that its tip row had in a sound store, also if the chain
is read in stores that have grown since. -/
theorem Store.Sound.verifyWith (sound : s.Sound) {row : Tip} (tip : s.tip? c = some row)
    {size : Int} (word : IsWord size) (nonzero : size ≠ 0) {db : Database} {view : Nat → Database}
    (later : s'.Sound) (found : db.store = .ok s') (grown : s.ofChain c <+: s'.ofChain c)
    (views : ∀ i, ∃ t, (view i).store = .ok t ∧ t.Shows c (s'.ofChain c)) :
    row.verifyWith size db view = .ok (s.ofChain c).length := by
  obtain ⟨-, chain⟩ := (tip?_eq_some_iff sound.keys).1 tip
  obtain ⟨m, more⟩ := grown
  have reading : (⟨row.chain, .int 0, size⟩ : Chain).readWith db view =
      ⟨s.ofChain c ++ m, none⟩ := by
    rw [chain, more]
    exact Chain.readWith_of_shows (k := ⟨c, .int 0, size⟩) (p := 0) later found word nonzero rfl views
  rw [Tip.verifyWith, reading]
  exact (sound.tops c row tip).check (sound.linked c) (sound.bounded c)

/-- The check of a chain of a sound store finds its length. -/
theorem Store.Sound.verify (sound : s.Sound) {db : Database} (found : db.store = .ok s) {row : Tip}
    (tip : s.tip? c = some row) {size : Int} (word : IsWord size) (nonzero : size ≠ 0) :
    row.verifyWith size db (fun _ => db) = .ok (s.ofChain c).length :=
  sound.verifyWith tip word nonzero sound found (List.prefix_refl _) fun _ =>
    ⟨s, found, sound.shows (List.prefix_refl _)⟩

end ChainLog
