/-
# What the check of a chain finds

The check is exact (`verification_exact`).  Whatever has become of the two tables, as long as
their keys hold, it finds `n` records exactly if the chain links up under its tip row with `n`
records (`Store.LinksUp`), and else a defect; where a record is misplaced (`Store.Misfit`), it
names the first such record.

Both are told by look-ups of single records, as a reader of the tables would make them.  The check
walks over a reading instead.  The two are brought together by the window that the tip row opens: in
it, the records that link up come first (`exists_linked_prefix`), and the record after them is the
first one that is misplaced (`Split.first_misfit`).  Whatever stands behind that one, every reading
comes to it (`Split.pagesFrom_reaches`), and the check goes no further (`Split.check_of_stop`).

The columns have to hold whole numbers (`Store.Countable`).  They are not strict about that: an edit
may leave a fraction or a text in them, and then the check is not exact (`fraction_is_no_gap`).
-/
import ChainLog.Proofs.ChainReading
import ChainLog.Store.Edit

namespace ChainLog

set_option autoImplicit false

namespace Store

/-! ## Links -/

/-- The record of a chain at a position. -/
def at? (s : Store) (c : ChainName) (i : Nat) : Option Record :=
  s.records.find? fun r => r.chain = c ∧ r.idx.same (.int i) = true

/-- The identifier that a record at a position has to name: that of the record before it, if there
is one. -/
def linkAt? (s : Store) (c : ChainName) : Nat → Option Uuid
  | 0 => some Uuid.nil
  | i + 1 => (s.at? c i).map (·.id)

/-- There are `n` records under the tip row, linked from a head that names nil to the record that
the row names. -/
structure LinksUp (s : Store) (t : Tip) (n : Nat) : Prop where
  length : t.length.same (.int n) = true
  links : ∀ i < n, ∃ r, s.at? t.chain i = some r ∧ s.linkAt? t.chain i = some r.parent
  tip : s.linkAt? t.chain n = some t.tipId

/-- A record below the length of the tip row has a wrong parent, or there is a gap before it. -/
structure Misfit (s : Store) (t : Tip) (i : Nat) (r : Record) : Prop where
  stands : s.at? t.chain i = some r
  below : (Cell.int i).below t.length = true
  unlinked : s.linkAt? t.chain i ≠ some r.parent

/-- The check can count the records under a tip row. -/
structure Countable (s : Store) (t : Tip) : Prop where
  /-- The length is a number; if it is an integer, it has 64 bits. -/
  number : t.length.rank = 0
  stored : t.length.parameter = .ok t.length
  /-- What stands below it stands at a whole number, and at an integer if that has 64 bits: a
  column of numbers holds it as one. -/
  whole : ∀ r ∈ s.ofChain t.chain, (Cell.int 0).atMost r.idx = true →
    r.idx.below t.length = true → ∃ i : Int, r.idx.same (.int i) = true ∧ (IsWord i → r.idx = .int i)
  /-- Not every position is taken, if the length is greater than there are positions.  The rows of
  a table are numbered from one in 64 bits, so it never has as many. -/
  room : t.length.atMost (.int 0x8000000000000000) = true ∨
    (s.ofChain t.chain).length < 0x8000000000000000

end Store

variable {s : Store} {c : ChainName} {t : Tip} {stop length : Cell} {n : Int} {p i j : Nat}
  {r q : Record} {l m fits rest : List Record} {parent : Uuid} {start : Nat} {db : Database}
  {size : Int}

/-! ## The window that is read -/

namespace Store

/-- What is read stands at natural numbers. -/
theorem Countable.placed (countable : s.Countable t)
    (member : r ∈ s.window t.chain (.int 0) t.length) :
    ∃ i : Nat, r.idx.same (.int i) = true ∧ (i < 0x8000000000000000 → r.idx = .int i) := by
  obtain ⟨stored, chain, after, below⟩ := mem_window.1 member
  obtain ⟨i, same, exactly⟩ := countable.whole r (mem_ofChain.2 ⟨stored, chain⟩) after below
  rw [Cell.atMost_congr same, Cell.atMost_int, decide_eq_true_eq] at after
  obtain ⟨i, rfl⟩ := Int.eq_ofNat_of_zero_le after
  exact ⟨i, same, fun small => exactly ⟨by omega, by omega⟩⟩

theorem at?_eq_some_iff (keys : s.KeysHold) :
    s.at? c i = some r ↔ r ∈ s.records ∧ r.chain = c ∧ r.idx.same (.int i) = true := by
  constructor
  · intro found
    have holds := List.find?_some found
    exact ⟨List.mem_of_find?_eq_some found, by simpa using holds⟩
  · rintro ⟨member, chain, same⟩
    cases found : s.at? c i with
    | none => simpa [chain, same] using List.find?_eq_none.1 found r member
    | some q =>
        have holds : q.chain = c ∧ q.idx.same (.int i) = true := by
          simpa using List.find?_some found
        have clash : Clash q r :=
          .inr ⟨holds.1.trans chain.symm, Cell.same_trans holds.2 (Cell.same_comm.trans same)⟩
        rw [keys.record_unique (List.mem_of_find?_eq_some found) member clash]

/-- What is looked up below the length is what the window has there. -/
theorem KeysHold.at?_iff_mem_window (keys : s.KeysHold) :
    (s.at? t.chain i = some r ∧ (Cell.int i).below t.length = true) ↔
      r ∈ s.window t.chain (.int 0) t.length ∧ r.idx.same (.int i) = true := by
  rw [at?_eq_some_iff keys, mem_window]
  constructor
  · rintro ⟨⟨member, chain, same⟩, below⟩
    have after : (Cell.int 0).atMost r.idx = true := by
      rw [Cell.atMost_congr same, Cell.atMost_int, decide_eq_true_eq]
      omega
    exact ⟨⟨member, chain, after, by rwa [Cell.below_congr_left same]⟩, same⟩
  · rintro ⟨⟨member, chain, -, below⟩, same⟩
    exact ⟨⟨member, chain, same⟩, by rwa [← Cell.below_congr_left same]⟩

end Store

/-! ## How far records link up -/

/-- Each linked record names the last one before it. -/
theorem Linked.parent_eq (linked : Linked parent start l) (found : l[i]? = some r) :
    r.parent = lastId parent (l.take i) := by
  obtain ⟨inside, rfl⟩ := List.getElem?_eq_some_iff.1 found
  rw [← List.take_append_drop i l, linked_append, List.drop_eq_getElem_cons inside] at linked
  exact linked.2.1

/-- Records link up as far as a record that does not follow the one before it. -/
theorem exists_linked_prefix (parent : Uuid) (start : Nat) (l : List Record) :
    ∃ fits rest, l = fits ++ rest ∧ Linked parent start fits ∧ ∀ r others, rest = r :: others →
      ¬ (r.parent = lastId parent fits ∧ r.idx = .int ((start + fits.length : Nat))) := by
  induction l generalizing parent start with
  | nil => exact ⟨[], [], rfl, trivial, fun _ _ same => by cases same⟩
  | cons r l ih =>
      by_cases follows : r.parent = parent ∧ r.idx = .int start
      · obtain ⟨fits, rest, split, linked, stops⟩ := ih r.id (start + 1)
        refine ⟨r :: fits, rest, by rw [split]; rfl, ⟨follows.1, follows.2, linked⟩, ?_⟩
        rw [List.length_cons, Nat.add_comm fits.length, ← Nat.add_assoc]
        exact stops
      · refine ⟨[], r :: l, rfl, trivial, fun q others same => ?_⟩
        obtain ⟨rfl, -⟩ := List.cons.inj same
        exact follows

namespace Store

/-- The records that are read under a tip row: as far as they link up, and the rest. -/
structure Split (s : Store) (t : Tip) (fits rest : List Record) : Prop where
  window : s.window t.chain (.int 0) t.length = fits ++ rest
  linked : Linked Uuid.nil 0 fits
  stops : ∀ r others, rest = r :: others →
    ¬ (r.parent = lastId Uuid.nil fits ∧ r.idx = .int (fits.length : Nat))

theorem exists_split (s : Store) (t : Tip) : ∃ fits rest, s.Split t fits rest := by
  obtain ⟨fits, rest, window, linked, stops⟩ :=
    exists_linked_prefix Uuid.nil 0 (s.window t.chain (.int 0) t.length)
  rw [Nat.zero_add] at stops
  exact ⟨fits, rest, window, linked, stops⟩

namespace Split

theorem below (split : s.Split t fits rest) (member : r ∈ fits ++ rest) :
    r.idx.below t.length = true := by
  rw [← split.window] at member
  exact (mem_window.1 member).2.2.2

/-- The records that link up are those that are looked up at their positions. -/
theorem at?_eq (split : s.Split t fits rest) (keys : s.KeysHold) (found : fits[i]? = some r) :
    s.at? t.chain i = some r := by
  have idx := split.linked.idx_of_getElem? found
  rw [Nat.zero_add] at idx
  have member : r ∈ s.window t.chain (.int 0) t.length := by
    rw [split.window]
    exact List.mem_append_left _ (List.mem_of_getElem? found)
  have same : r.idx.same (.int i) = true := by rw [idx, Cell.same_refl]
  exact ((keys.at?_iff_mem_window).2 ⟨member, same⟩).1

theorem linkAt?_eq (split : s.Split t fits rest) (keys : s.KeysHold) (inside : i ≤ fits.length) :
    s.linkAt? t.chain i = some (lastId Uuid.nil (fits.take i)) := by
  cases i with
  | zero => rfl
  | succ i =>
      have found : fits[i]? = some fits[i] := List.getElem?_eq_getElem inside
      rw [linkAt?, split.at?_eq keys found, List.take_add_one, found]
      simp only [Option.map_some, Option.toList_some, lastId_concat]

/-- A record that links up names the one before it. -/
theorem linked_at (split : s.Split t fits rest) (keys : s.KeysHold) (found : fits[i]? = some r) :
    s.linkAt? t.chain i = some r.parent := by
  have inside := (List.getElem?_eq_some_iff.1 found).1
  rw [split.linkAt?_eq keys (Nat.le_of_lt inside), split.linked.parent_eq found]

theorem strict (split : s.Split t fits rest) (keys : s.KeysHold) :
    (fits ++ rest).Pairwise fun a b => a.idx.below b.idx = true :=
  split.window ▸ window_strict keys

theorem placed (split : s.Split t fits rest) (countable : s.Countable t) (member : r ∈ fits ++ rest) :
    ∃ i : Nat, r.idx.same (.int i) = true ∧ (i < 0x8000000000000000 → r.idx = .int i) :=
  countable.placed (split.window ▸ member)

/-- What does not link up stands after all that does. -/
theorem after (split : s.Split t fits rest) (keys : s.KeysHold) (member : r ∈ rest)
    (same : r.idx.same (.int i) = true) : fits.length ≤ i := by
  refine Nat.not_lt.1 fun inside => ?_
  have taken : fits[i]? = some fits[i] := List.getElem?_eq_getElem inside
  have idx := split.linked.idx_of_getElem? taken
  have before := (List.pairwise_append.1 (split.strict keys)).2.2 _ (List.mem_of_getElem? taken) r member
  have less := Cell.lt_of_below before (by rw [idx, Cell.same_refl]) same
  omega

/-- The positions up to the first that does not link up can be asked for. -/
theorem room (split : s.Split t fits rest) (countable : s.Countable t) (inside : p ≤ fits.length)
    (below : (Cell.int p).below t.length = true) : p < 0x8000000000000000 := by
  rcases countable.room with bounded | few
  · have less := Cell.below_of_below_of_atMost below bounded
    rw [Cell.below_int, decide_eq_true_eq] at less
    omega
  · have part : (s.window t.chain (.int 0) t.length).length ≤ (s.ofChain t.chain).length := by
      rw [Store.window, (Sorted.sort_perm _ _).length_eq]
      exact List.length_filter_le _ _
    rw [split.window, List.length_append] at part
    omega

/-- The first record that does not follow stands after all that link up, and right after them only if
it names a wrong parent. -/
theorem stop_after (split : s.Split t fits (r :: m)) (keys : s.KeysHold)
    (countable : s.Countable t) :
    ∃ i : Nat, r.idx.same (.int i) = true ∧ fits.length ≤ i ∧ (Cell.int i).below t.length = true ∧
      (r.parent = lastId Uuid.nil fits → i ≠ fits.length) := by
  have member : r ∈ fits ++ r :: m := by simp
  obtain ⟨i, same, exactly⟩ := split.placed countable member
  have below := split.below member
  rw [Cell.below_congr_left same] at below
  refine ⟨i, same, split.after keys List.mem_cons_self same, below, fun parent next => ?_⟩
  subst next
  exact split.stops r m rfl ⟨parent, exactly (split.room countable (Nat.le_refl _) below)⟩

/-- There is a gap between the records that link up and the first that does not follow. -/
theorem at?_gap (split : s.Split t fits (r :: m)) (keys : s.KeysHold)
    (same : r.idx.same (.int i) = true) (after : fits.length ≤ j) (before : j < i) :
    s.at? t.chain j = none := by
  refine Option.eq_none_iff_forall_ne_some.2 fun q found => ?_
  have earlier : (Cell.int j).atMost r.idx = true := by
    rw [Cell.atMost_congr same, Cell.atMost_int, decide_eq_true_eq]
    omega
  have below := Cell.below_of_atMost_of_below earlier (split.below (r := r) (by simp))
  obtain ⟨stored, position⟩ := (keys.at?_iff_mem_window).1 ⟨found, below⟩
  rw [split.window] at stored
  rcases List.mem_append.1 stored with linked | others
  · obtain ⟨k, place, -, bound⟩ := split.linked.placed linked
    rw [place, Cell.same_int, decide_eq_true_eq] at position
    omega
  · rcases List.mem_cons.1 others with rfl | later
    · have one := Cell.int_unique same position
      omega
    · obtain ⟨-, behind, -⟩ := List.pairwise_append.1 (split.strict keys)
      have less := Cell.lt_of_below ((List.pairwise_cons.1 behind).1 q later) same position
      omega

/-- The first record that does not follow is misplaced. -/
theorem misfit (split : s.Split t fits (r :: m)) (keys : s.KeysHold) (countable : s.Countable t) :
    ∃ i, s.Misfit t i r ∧ r.idx.same (.int i) = true := by
  obtain ⟨i, same, after_fits, below, stops⟩ := split.stop_after keys countable
  have member : r ∈ s.window t.chain (.int 0) t.length := by rw [split.window]; simp
  obtain ⟨stands, -⟩ := (keys.at?_iff_mem_window).2 ⟨member, same⟩
  refine ⟨i, ⟨stands, below, fun linked => ?_⟩, same⟩
  rcases Nat.eq_or_lt_of_le after_fits with next | gap
  · -- It stands where it should, so it names the wrong parent.
    rw [← next, split.linkAt?_eq keys (Nat.le_refl _), List.take_length] at linked
    exact stops (Option.some.inj linked).symm next.symm
  · -- Nothing stands right before it.
    obtain ⟨k, rfl⟩ : ∃ k, i = k + 1 := ⟨i - 1, by omega⟩
    rw [linkAt?, split.at?_gap keys same (Nat.le_of_lt_succ gap) (Nat.lt_succ_self k)] at linked
    cases linked

/-- A chain whose records all link up does so with as many as there are, if its tip row agrees. -/
theorem linksUp (split : s.Split t fits []) (keys : s.KeysHold)
    (length : t.length.same (.int fits.length) = true) (tip : t.tipId = lastId Uuid.nil fits) :
    s.LinksUp t fits.length where
  length := length
  links i inside := by
    have found : fits[i]? = some fits[i] := List.getElem?_eq_getElem inside
    exact ⟨fits[i], split.at?_eq keys found, split.linked_at keys found⟩
  tip := by rw [split.linkAt?_eq keys (Nat.le_refl _), List.take_length, tip]

/-- If the chain links up, all that is read does, and the tip row agrees. -/
theorem of_linksUp {n : Nat} (split : s.Split t fits rest) (keys : s.KeysHold)
    (countable : s.Countable t) (links : s.LinksUp t n) :
    rest = [] ∧ fits.length = n ∧ t.tipId = lastId Uuid.nil fits := by
  have below_iff (i : Nat) : (Cell.int i).below t.length = true ↔ i < n := by
    rw [Cell.below_congr links.length, Cell.below_int, decide_eq_true_eq]
    omega
  have no_rest : rest = [] := by
    cases rest with
    | nil => rfl
    | cons r m =>
        obtain ⟨i, misfit, -⟩ := split.misfit keys countable
        obtain ⟨q, found, linked⟩ := links.links i ((below_iff i).1 misfit.below)
        obtain rfl : q = r := Option.some.inj (found.symm.trans misfit.stands)
        exact absurd linked misfit.unlinked
  subst no_rest
  have window := split.window
  rw [List.append_nil] at window
  have all : fits.length = n := by
    refine Nat.le_antisymm (Nat.not_lt.1 fun more => ?_) (Nat.not_lt.1 fun fewer => ?_)
    · have last : fits[n]? = some fits[n] := List.getElem?_eq_getElem more
      have idx := split.linked.idx_of_getElem? last
      have below := split.below (List.mem_append_left [] (List.mem_of_getElem? last))
      rw [idx, Nat.zero_add, below_iff] at below
      exact absurd below (Nat.lt_irrefl n)
    · obtain ⟨q, found, -⟩ := links.links fits.length fewer
      obtain ⟨stored, position⟩ := (keys.at?_iff_mem_window).1 ⟨found, (below_iff _).2 fewer⟩
      rw [window] at stored
      obtain ⟨j, place, -, bound⟩ := split.linked.placed stored
      rw [place, Cell.same_int, decide_eq_true_eq] at position
      omega
  have tip := links.tip
  rw [← all, split.linkAt?_eq keys (Nat.le_refl _), List.take_length] at tip
  exact ⟨rfl, all, (Option.some.inj tip).symm⟩

/-- None of the records that link up is misplaced. -/
theorem mem_of_misfit (split : s.Split t fits rest) (keys : s.KeysHold)
    (misfit : s.Misfit t i q) : q ∈ rest ∧ q.idx.same (.int i) = true := by
  obtain ⟨stored, position⟩ := (keys.at?_iff_mem_window).1 ⟨misfit.stands, misfit.below⟩
  rw [split.window] at stored
  rcases List.mem_append.1 stored with linked | others
  · obtain ⟨j, found⟩ := List.getElem?_of_mem linked
    have place := split.linked.idx_of_getElem? found
    rw [place, Nat.zero_add, Cell.same_int, decide_eq_true_eq] at position
    obtain rfl : j = i := Int.ofNat_inj.1 position
    exact absurd (split.linked_at keys found) misfit.unlinked
  · exact ⟨others, position⟩

/-- The first record that does not follow is the first that is misplaced. -/
theorem first_misfit (split : s.Split t fits (r :: m)) (keys : s.KeysHold)
    (countable : s.Countable t) :
    ∃ i, s.Misfit t i r ∧ ∀ j q, s.Misfit t j q → i ≤ j := by
  obtain ⟨i, misfit, same⟩ := split.misfit keys countable
  refine ⟨i, misfit, fun j q other => ?_⟩
  obtain ⟨member, position⟩ := split.mem_of_misfit keys other
  rcases List.mem_cons.1 member with rfl | later
  · have one := Cell.int_unique same position
    omega
  · obtain ⟨-, behind, -⟩ := List.pairwise_append.1 (split.strict keys)
    have less := Cell.lt_of_below ((List.pairwise_cons.1 behind).1 q later) same position
    omega

end Split

end Store

/-! ## The reading -/

/-- What the check needs of a reading: the records that link up, and behind them the first that does
not, if there is one. -/
structure Reading.Reaches (reading : Reading) (fits rest : List Record) : Prop where
  all : rest = [] → reading = ⟨fits, none⟩
  first : ∀ r m, rest = r :: m → ∃ more, reading.records = fits ++ r :: more

namespace Reading.Reaches

theorem finished (nothing : fits ++ rest = []) : Reading.finished.Reaches fits rest := by
  obtain ⟨rfl, rfl⟩ := List.append_eq_nil_iff.1 nothing
  exact ⟨fun _ => rfl, fun _ _ split => by cases split⟩

/-- A reading whose first page has the first record that does not link up. -/
theorem begun (reading : Reading) (fits more m : List Record) (r : Record) :
    (reading.after (fits ++ r :: more)).Reaches fits (r :: m) where
  all none_left := by cases none_left
  first q l split := by
    obtain ⟨rfl, -⟩ := List.cons.inj split
    exact ⟨more ++ reading.records, List.append_assoc _ _ _⟩

/-- A page of records that link up goes before what the rest of the reading has. -/
theorem after {reading : Reading} (reaches : reading.Reaches fits rest) (page : List Record) :
    (reading.after page).Reaches (page ++ fits) rest where
  all none_left := by rw [reaches.all none_left]; rfl
  first r m split := by
    obtain ⟨more, records⟩ := reaches.first r m split
    exact ⟨more, by rw [Reading.after, records, List.append_assoc]⟩

end Reading.Reaches

/-- A page of two lists ends within the first, or has all of it and begins the second. -/
theorem Store.limit_append_cases {α : Type} (nonzero : size ≠ 0) (l m : List α) :
    l ++ m = [] ∨
      (∃ a others more, m = a :: others ∧ limit size (l ++ m) = l ++ a :: more) ∨
      ∃ init last others, l = init ++ last :: others ∧ limit size (l ++ m) = init ++ [last] := by
  obtain ⟨k, limit⟩ := limit_eq_take nonzero (l ++ m)
  rw [limit]
  by_cases within : k < l.length
  · refine .inr (.inr ⟨l.take k, l[k], l.drop (k + 1), ?_, ?_⟩)
    · rw [← List.drop_eq_getElem_cons within, List.take_append_drop]
    · rw [List.take_append_of_le_length within, List.take_succ_eq_append_getElem within]
  · cases m with
    | cons a others =>
        refine .inr (.inl ⟨a, others, others.take (k - l.length), rfl, ?_⟩)
        rw [List.take_append, List.take_of_length_le (by omega),
          show k + 1 - l.length = k - l.length + 1 by omega, List.take_succ_cons]
    | nil =>
        rw [List.append_nil]
        by_cases empty : l = []
        · exact .inl empty
        · have last := (List.dropLast_concat_getLast empty).symm
          exact .inr (.inr ⟨l.dropLast, l.getLast empty, [], last, by
            rw [List.take_of_length_le (by omega), ← last]⟩)

/-- After a page of linked records the reading goes on with those behind it. -/
theorem Linked.page_split {init others : List Record} {last : Record} (linked : Linked parent 0 l)
    (split : l.drop p = init ++ last :: others) :
    last.idx = .int ((p + init.length : Nat) : Int) ∧ p + init.length < l.length ∧
      l.drop p = init ++ [last] ++ l.drop (p + init.length + 1) := by
  have taken : l[p + init.length]? = some last := by
    rw [← List.getElem?_drop, split]
    simp
  have idx := linked.idx_of_getElem? taken
  rw [Nat.zero_add] at idx
  refine ⟨idx, (List.getElem?_eq_some_iff.1 taken).1, ?_⟩
  rw [Nat.add_assoc, ← List.drop_drop, split]
  simp

namespace Store.Split

/-- What remains to be read at a position up to the first that does not link up. -/
theorem remaining_eq (split : s.Split t fits rest) (keys : s.KeysHold) (countable : s.Countable t)
    (inside : p ≤ fits.length) :
    remaining p (s.window t.chain (.int 0) t.length) = fits.drop p ++ rest := by
  have others : remaining p rest = rest := by
    refine remaining_eq_self fun r member => ?_
    obtain ⟨i, same, -⟩ := split.placed countable (List.mem_append_right fits member)
    have after := split.after keys member same
    rw [Cell.atMost_congr same, Cell.atMost_int, decide_eq_true_eq]
    omega
  have linked : remaining p fits = fits.drop p := split.linked.standingFrom
  rw [← linked, ← others, split.window, remaining, List.filter_append]
  rfl

theorem nothing_left (split : s.Split t fits rest) (keys : s.KeysHold) (countable : s.Countable t)
    (ends : t.length.Ends n) (inside : p ≤ fits.length) (past : n ≤ p) : fits.drop p ++ rest = [] := by
  rw [← split.remaining_eq keys countable inside]
  refine remaining_eq_nil fun r member => ?_
  have before := Cell.below_of_below_of_atMost (mem_window.1 member).2.2.2 ends.atMost
  refine Cell.below_of_below_of_atMost before ?_
  rw [Cell.atMost_int, decide_eq_true_eq]
  exact past

/-- A reading goes on from page to page as long as records link up, and to the one behind these. -/
theorem pagesFrom_reaches (split : s.Split t fits rest) (keys : s.KeysHold)
    (countable : s.Countable t) (found : db.store = .ok s) (word : IsWord size) (nonzero : size ≠ 0)
    (ends : t.length.Ends n) (fuel turn : Nat) (p : Nat) (inside : p ≤ fits.length)
    (enough : n ≤ p + fuel) :
    ((⟨t.chain, .int 0, size⟩ : Chain).pagesFrom (fun _ => db) t.length fuel turn (.int p)).Reaches
      (fits.drop p) rest := by
  induction fuel generalizing turn p with
  | zero => exact .finished (split.nothing_left keys countable ends inside (by omega))
  | succ fuel ih =>
      unfold Chain.pagesFrom
      rw [ends.isBelow?]
      by_cases position : (p : Int) < n
      · have room : p < 0x8000000000000000 :=
          split.room countable inside (by rw [ends.below, decide_eq_true position])
        have finds : (⟨t.chain, .int 0, size⟩ : Chain).Finds (fun _ => db) 0 t.length
            (s.window t.chain (.int 0) t.length) :=
          fun _ => ⟨s, found, fun _ later => window_eq_remaining later⟩
        have page := finds.page word ends (Int.natCast_nonneg p) ⟨by omega, by omega⟩ turn
        rw [split.remaining_eq keys countable inside] at page
        simp only [position, decide_true, page]
        rcases limit_append_cases nonzero (fits.drop p) rest with
          nothing | ⟨r, m, more, behind, limit⟩ | ⟨init, last, others, linked, limit⟩
        · rw [nothing, show limit size [] = ([] : List Record) by simp [limit]]
          exact .finished nothing
        · -- The page has the first record that does not link up; how it goes on does not matter.
          rw [limit, behind]
          cases ended : (fits.drop p ++ r :: more).getLast? with
          | none => simp at ended
          | some last => exact .begun _ (fits.drop p) more m r
        · -- The page ends within the records that link up, at one with a position after it.
          obtain ⟨idx, inside, page_first⟩ := split.linked.page_split linked
          have next : last.idx.next? = .ok (.int ((p + init.length + 1 : Nat) : Int)) := by
            rw [idx]
            rfl
          have further : last.idx.below (.int ((p + init.length + 1 : Nat) : Int)) = true := by
            rw [idx, Cell.below_int, decide_eq_true_eq]
            omega
          have later := ih (turn + 1) (p + init.length + 1) inside (by omega)
          rw [limit, page_first]
          simp only [List.getLast?_concat, next, further, if_true]
          exact later.after (init ++ [last])
      · simp only [position, decide_false]
        exact .finished (split.nothing_left keys countable ends inside (Int.not_lt.1 position))

end Store.Split

/-! ## Outcomes -/

/-- Records that all link up pass the check exactly if the tip row agrees with them. -/
theorem Tip.check_of_linked (linked : Linked Uuid.nil 0 l)
    (below : ∀ r ∈ l, r.idx.below t.length = true) :
    (t.length.same (.int l.length) = true ∧ t.tipId = lastId Uuid.nil l ∧
        t.check ⟨l, none⟩ = .ok l.length) ∨
      (¬ (t.length.same (.int l.length) = true ∧ t.tipId = lastId Uuid.nil l) ∧
        ∃ id defect, t.check ⟨l, none⟩ = .error (.broken ⟨t.chain, id, defect⟩)) := by
  have walked := walk_append (c := t.chain) (m := []) linked below
  rw [List.append_nil, Nat.zero_add] at walked
  unfold Tip.check
  rw [walked]
  cases length : t.length.same (.int (l.length : Nat)) with
  | false =>
      refine .inr ⟨fun agrees => Bool.false_ne_true agrees.1, t.tipId, .length t.length l.length, ?_⟩
      simp only [walk, Option.filter_none, length, Bool.not_false, if_true]
  | true =>
      by_cases tip : t.tipId = lastId Uuid.nil l
      · refine .inl ⟨rfl, tip, ?_⟩
        simp only [walk, Option.filter_none, length, tip, Bool.not_true, Bool.false_eq_true, if_false,
          ne_eq, not_true_eq_false]
      · refine .inr ⟨fun agrees => tip agrees.2, lastId Uuid.nil l, .tip (lastId Uuid.nil l) t.tipId, ?_⟩
        simp only [walk, Option.filter_none, length, Bool.not_true, Bool.false_eq_true, if_false,
          ne_eq, tip, not_false_eq_true, if_true]

/-- The check stops at the first record that does not follow the one before it, whatever comes
of the reading afterwards. -/
theorem Store.Split.check_of_stop {reading : Reading} {more : List Record}
    (split : s.Split t fits (r :: m)) (keys : s.KeysHold) (countable : s.Countable t)
    (reached : reading.records = fits ++ r :: more) :
    ∃ defect, t.check reading = .error (.broken ⟨t.chain, r.id, defect⟩) := by
  obtain ⟨i, same, after, below, stops⟩ := split.stop_after keys countable
  have onward : (Cell.int fits.length).atMost (.int i) = true := by
    rw [Cell.atMost_int, decide_eq_true_eq]
    omega
  have going := Cell.not_same_of_below (Cell.below_of_atMost_of_below onward below)
  have walked := walk_append (c := t.chain) (m := r :: more) split.linked fun q member =>
    split.below (List.mem_append_left _ member)
  rw [Nat.zero_add] at walked
  unfold Tip.check
  rw [reached, walked]
  by_cases parent : r.parent = lastId Uuid.nil fits
  · have place : r.idx.same (.int (fits.length : Nat)) = false := by
      rw [Bool.eq_false_iff]
      intro here
      exact stops parent (Int.ofNat_inj.1 (Cell.int_unique same here))
    refine ⟨.position r.idx fits.length, ?_⟩
    simp only [walk, going, parent, place, Bool.false_eq_true, if_false, ne_eq, not_true_eq_false,
      Bool.not_false, if_true]
  · refine ⟨.parent r.parent (lastId Uuid.nil fits), ?_⟩
    simp only [walk, going, Bool.false_eq_true, if_false, ne_eq, parent, not_false_eq_true, if_true]

/-- The check of a chain is made on a reading of the window that its tip row opens. -/
theorem Store.Split.exists_reading (split : s.Split t fits rest) (found : db.store = .ok s)
    (keys : s.KeysHold) (word : IsWord size) (nonzero : size ≠ 0) (tip : s.tip? t.chain = some t)
    (countable : s.Countable t) :
    ∃ reading : Reading, reading.Reaches fits rest ∧ db.verify t.chain size = t.check reading := by
  obtain ⟨n, ends, -⟩ := Cell.exists_ends countable.number countable.stored
  have reaches := split.pagesFrom_reaches keys countable found word nonzero ends _ 0 0
    (Nat.zero_le _) ends.le_pageBound
  have length : s.lengthOf t.chain = t.length := by rw [Store.lengthOf, tip, Option.elim_some]
  refine ⟨_, reaches, ?_⟩
  simp only [Database.verify, Database.tipRow, found, tip, Tip.verifyWith, Chain.readWith, length,
    Chain.readUpTo]
  rfl

/-- The check finds what links up, or a defect. -/
theorem Store.Split.outcome {reading : Reading} (split : s.Split t fits rest) (keys : s.KeysHold)
    (countable : s.Countable t) (reaches : reading.Reaches fits rest) :
    (s.LinksUp t fits.length ∧ t.check reading = .ok fits.length) ∨
      ((∀ n, ¬ s.LinksUp t n) ∧ ∃ id defect,
        t.check reading = .error (.broken ⟨t.chain, id, defect⟩)) := by
  cases rest with
  | nil =>
      have below (r : Record) (member : r ∈ fits) := split.below (List.mem_append_left [] member)
      rw [reaches.all rfl]
      rcases Tip.check_of_linked split.linked below with
        ⟨length, tip, passes⟩ | ⟨disagrees, id, defect, fails⟩
      · exact .inl ⟨split.linksUp keys length tip, passes⟩
      · refine .inr ⟨fun n links => disagrees ?_, id, defect, fails⟩
        obtain ⟨-, all, tip⟩ := split.of_linksUp keys countable links
        rw [all]
        exact ⟨links.length, tip⟩
  | cons r m =>
      obtain ⟨more, reached⟩ := reaches.first r m rfl
      obtain ⟨defect, fails⟩ := split.check_of_stop keys countable reached
      refine .inr ⟨fun n links => ?_, r.id, defect, fails⟩
      have none_left := (split.of_linksUp keys countable links).1
      cases none_left

/-- The check passes exactly the chains that link up. -/
theorem Store.Split.check_eq_ok_iff {reading : Reading} (split : s.Split t fits rest)
    (keys : s.KeysHold) (countable : s.Countable t) (reaches : reading.Reaches fits rest) (n : Nat) :
    t.check reading = .ok n ↔ s.LinksUp t n := by
  rcases split.outcome keys countable reaches with ⟨links, passes⟩ | ⟨breaks, id, defect, fails⟩
  · rw [passes, Except.ok.injEq]
    refine ⟨fun same => same ▸ links, fun others => ?_⟩
    exact (split.of_linksUp keys countable others).2.1
  · rw [fails]
    exact ⟨fun passes => (by cases passes), fun links => absurd links (breaks n)⟩

/-- The check of a chain that does not link up finds a defect. -/
theorem Store.Split.check_of_broken {reading : Reading} (split : s.Split t fits rest)
    (keys : s.KeysHold) (countable : s.Countable t) (reaches : reading.Reaches fits rest)
    (breaks : ∀ n, ¬ s.LinksUp t n) :
    ∃ id defect, t.check reading = .error (.broken ⟨t.chain, id, defect⟩) := by
  rcases split.outcome keys countable reaches with ⟨links, -⟩ | ⟨-, id, defect, fails⟩
  · exact absurd links (breaks _)
  · exact ⟨id, defect, fails⟩

/-- The check names the first record that is misplaced, if there is one. -/
theorem Store.Split.check_of_misfit {reading : Reading} (split : s.Split t fits rest)
    (keys : s.KeysHold) (countable : s.Countable t) (reaches : reading.Reaches fits rest)
    (misfit : s.Misfit t i r) :
    ∃ j q, s.Misfit t j q ∧ (∀ k p, s.Misfit t k p → j ≤ k) ∧
      ∃ defect, t.check reading = .error (.broken ⟨t.chain, q.id, defect⟩) := by
  have member := (split.mem_of_misfit keys misfit).1
  cases rest with
  | nil => cases member
  | cons q m =>
      obtain ⟨j, stops, first⟩ := split.first_misfit keys countable
      obtain ⟨more, reached⟩ := reaches.first q m rfl
      exact ⟨j, q, stops, first, split.check_of_stop keys countable reached⟩

/-- **The check is exact.**  On any tables that obey their keys it fails for want of the chain
exactly if there is no tip row; else it finds `n` records exactly if the chain links up with `n`
records, and a defect if it does not link up.  The defect is at the first record that has a wrong
parent, or a gap before it, if there is such a record below the length. -/
theorem verification_exact (found : db.store = .ok s) (keys : s.KeysHold) (word : IsWord size)
    (nonzero : size ≠ 0) (countable : ∀ t, s.tip? c = some t → s.Countable t) :
    ((∃ a, db.verify c size = .error (.absent a)) ↔ s.tip? c = none) ∧
      ∀ t, s.tip? c = some t →
        (∀ n, db.verify c size = .ok n ↔ s.LinksUp t n) ∧
        ((∀ n, ¬ s.LinksUp t n) →
          ∃ id defect, db.verify c size = .error (.broken ⟨c, id, defect⟩)) ∧
        ∀ i r, s.Misfit t i r → ∃ j q, s.Misfit t j q ∧ (∀ k p, s.Misfit t k p → j ≤ k) ∧
          ∃ defect, db.verify c size = .error (.broken ⟨c, q.id, defect⟩) := by
  cases tip : s.tip? c with
  | none =>
      have fails : db.verify c size = .error (.absent (.chain c)) := by
        simp only [Database.verify, Database.tipRow, found, tip]
      exact ⟨⟨fun _ => rfl, fun _ => ⟨_, fails⟩⟩, fun t same => by cases same⟩
  | some t =>
      have countable := countable t tip
      obtain ⟨-, chain⟩ := (Store.tip?_eq_some_iff keys).1 tip
      obtain ⟨fits, rest, split⟩ := s.exists_split t
      obtain ⟨reading, reaches, verified⟩ :=
        split.exists_reading found keys word nonzero (chain.symm ▸ tip) countable
      rw [← chain, verified]
      refine ⟨⟨fun ⟨a, fails⟩ => ?_, fun same => by cases same⟩, ?_⟩
      · rcases split.outcome keys countable reaches with ⟨-, passes⟩ | ⟨-, id, defect, broken⟩
        · rw [passes] at fails
          cases fails
        · rw [broken] at fails
          cases fails
      rintro _ ⟨⟩
      exact ⟨split.check_eq_ok_iff keys countable reaches,
        split.check_of_broken keys countable reaches,
        fun i r => split.check_of_misfit keys countable reaches⟩

/-- A gap below the length: the record behind it is named. -/
theorem verification_exact_of_gap :
    let c : ChainName := ⟨.ofNat 7, .text "history"⟩
    let record (id parent : Nat) (idx : Int) : Record :=
      ⟨.ofNat id, c, .ofNat parent, .int 0, .text "v0", [], .int 0, .int idx, default⟩
    let t : Tip := ⟨c, .int 0, .ofNat 3, .int 3, default⟩
    let s : Store := ⟨[record 3 2 2, record 1 0 0], [t]⟩
    ∃ i r, s.Misfit t i r ∧ (∀ j q, s.Misfit t j q → i ≤ j) ∧
      ∃ defect, Database.verify ⟨true, some s, none⟩ c 1 = .error (.broken ⟨c, r.id, defect⟩) := by
  intro c record t s
  have countable : ∀ u, s.tip? c = some u → s.Countable u := by
    intro u tip
    obtain rfl : t = u := Option.some.inj tip
    refine ⟨rfl, rfl, fun r member _ _ => ?_, .inl (by decide)⟩
    have stored := (Store.mem_ofChain.1 member).1
    simp only [s, List.mem_cons, List.not_mem_nil, or_false] at stored
    rcases stored with rfl | rfl
    · exact ⟨2, rfl, fun _ => rfl⟩
    · exact ⟨0, rfl, fun _ => rfl⟩
  have found : Database.store ⟨true, some s, none⟩ = .ok s := rfl
  have checked := verification_exact (c := c) found ⟨by decide, by decide⟩ (by decide : IsWord 1)
    (by decide) countable
  exact (checked.2 t rfl).2.2 2 (record 3 2 2) ⟨by decide, by decide, by decide⟩

/-- Without numbers to count up to the check is not exact.  A record that is moved to a fraction is no
gap, but it is found where it stands if its page has room for it, and then it is taken for a defect;
and a text for a length is no defect, but nothing can be compared with it. -/
theorem fraction_is_no_gap :
    let c : ChainName := ⟨.ofNat 7, .text "history"⟩
    let record (id parent : Nat) (idx : Cell) : Record :=
      ⟨.ofNat id, c, .ofNat parent, .int 0, .text "v0", [], .int 0, idx, default⟩
    let tip (length : Cell) : Tip := ⟨c, .int 0, .ofNat 2, length, default⟩
    let s (length idx : Cell) : Store :=
      ⟨[record 1 0 (.int 0), record 2 1 (.int 1), record 3 0 idx], [tip length]⟩
    let db (length idx : Cell) : Database := ⟨true, some (s length idx), none⟩
    let half : Cell := .real 0x3fe0000000000000
    ((db (.int 2) (.int 5)).edit default
          [.setRecord (.uuid (.ofNat 3)) [(.idx, .float (.ofBits 0x3fe0000000000000))]] false =
        .ok (db (.int 2) half) ∧
      (s (.int 2) half).KeysHold ∧ (s (.int 2) half).tip? c = some (tip (.int 2)) ∧
      (s (.int 2) half).LinksUp (tip (.int 2)) 2 ∧
      (db (.int 2) half).verify c 100 = .error (.broken ⟨c, .ofNat 3, .parent Uuid.nil (.ofNat 1)⟩)) ∧
      (db (.int 2) (.int 5)).edit default
          [.setTip (.uuid (.ofNat 7)) (.text "history") [(.length, .text "abc")]] false =
        .ok (db (.text "abc") (.int 5)) ∧
      (s (.text "abc") (.int 5)).KeysHold ∧
        (db (.text "abc") (.int 5)).verify c 100 = .error (.operand (.notOrdered "int" "str")) := by
  intro c record tip s db half
  have links : (s (.int 2) half).LinksUp (tip (.int 2)) 2 := by
    refine ⟨by decide, fun i inside => ?_, rfl⟩
    match i with
    | 0 => exact ⟨record 1 0 (.int 0), rfl, rfl⟩
    | 1 => exact ⟨record 2 1 (.int 1), rfl, rfl⟩
  exact ⟨⟨rfl, ⟨by decide +kernel, by decide⟩, rfl, links, by rfl⟩, rfl, ⟨by decide, by decide⟩, by rfl⟩

end ChainLog
