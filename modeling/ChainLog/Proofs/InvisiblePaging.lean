/-
# Paging is invisible

However damaged the tables are, and whatever the size of the pages, a reading from a position on has
the records of the chain that stand from there up to the length of its tip row, in order, as one
query without pages has them (`paging_is_invisible`).  Nothing is asked of the links, and positions
may be left out, be negative, or lie beyond the length.

What is read has to be counted up to (`Store.Pageable`).  A reading goes on at one more than the
last position that it has read, so a record that an edit has moved to a fraction is passed over if
its page ends right before it (`fraction_between_pages`).
-/
import ChainLog.Proofs.Paging
import ChainLog.Proofs.SoundStore
import ChainLog.Store.Edit

namespace ChainLog

set_option autoImplicit false

variable {s : Store} {c : ChainName} {start size : Int} {db : Database} {r : Record}

/-- What a reading of the chain from a position on needs to go on from page to page. -/
structure Store.Pageable (s : Store) (c : ChainName) (start : Int) : Prop where
  /-- The length is a number; if it is an integer, it has 64 bits. -/
  number : (s.lengthOf c).rank = 0
  stored : (s.lengthOf c).parameter = .ok (s.lengthOf c)
  /-- What is read stands at an integer. -/
  whole : ∀ r ∈ s.ofChain c, (Cell.int start).atMost r.idx = true →
    r.idx.below (s.lengthOf c) = true → ∃ i, r.idx = .int i ∧ IsWord i
  /-- There is a position after the last record, if the length is greater than there are
  positions. -/
  room : (s.lengthOf c).atMost (.int 0x8000000000000000) = true ∨
    ∀ r ∈ s.ofChain c, r.idx ≠ .int 0x7fffffffffffffff

namespace Store.Pageable

theorem ordered {n : Int} (pageable : s.Pageable c start) (keys : s.KeysHold)
    (ends : (s.lengthOf c).Ends n) : Ordered (s.window c (.int start) (s.lengthOf c)) n := by
  refine ⟨window_strict keys, fun r member => ?_⟩
  obtain ⟨stored, chain, after, below⟩ := mem_window.1 member
  obtain ⟨i, idx, -⟩ := pageable.whole r (mem_ofChain.2 ⟨stored, chain⟩) after below
  rw [idx, ends.below, decide_eq_true_eq] at below
  exact ⟨i, idx, below⟩

/-- A whole reading has the window, with pages of any size. -/
theorem read (pageable : s.Pageable c start) (found : db.store = .ok s) (keys : s.KeysHold)
    (position : IsWord start) (word : IsWord size) (nonzero : size ≠ 0) :
    Chain.read ⟨c, .int start, size⟩ db = ⟨s.window c (.int start) (s.lengthOf c), none⟩ := by
  obtain ⟨n, ends, bounded⟩ := Cell.exists_ends pageable.number pageable.stored
  have ordered := pageable.ordered keys ends
  have finds : (⟨c, .int start, size⟩ : Chain).Finds (fun _ => db) start (s.lengthOf c)
      (s.window c (.int start) (s.lengthOf c)) :=
    fun _ => ⟨s, found, fun _ later => window_eq_remaining later⟩
  have stored : ∀ r ∈ s.window c (.int start) (s.lengthOf c),
      r.idx.below (.int 0x8000000000000000) = true := by
    intro r member
    obtain ⟨inside, chain, after, below⟩ := mem_window.1 member
    obtain ⟨i, idx, whole⟩ := pageable.whole r (mem_ofChain.2 ⟨inside, chain⟩) after below
    rw [idx, Cell.below_int, decide_eq_true_eq]
    exact whole.2
  have all : remaining start (s.window c (.int start) (s.lengthOf c)) =
      s.window c (.int start) (s.lengthOf c) :=
    remaining_eq_self fun r member => (mem_window.1 member).2.2.1
  obtain ⟨failure?, reading, only⟩ := Chain.pagesFrom_of_finds word nonzero ends ordered finds
    position.1 stored _ 0 start (Int.le_refl start) ends.le_pageBound
  rw [all] at reading
  unfold Chain.read Chain.readWith
  rw [found]
  cases failure? with
  | none => exact reading
  | some e =>
    obtain ⟨far, past | ⟨r, member, last⟩⟩ := only (Option.some_ne_none e)
    · have := position.2
      omega
    · obtain ⟨inside, chain, -⟩ := mem_window.1 member
      have within : (s.lengthOf c).atMost (.int 0x8000000000000000) = true :=
        pageable.room.resolve_right fun free => free r (mem_ofChain.2 ⟨inside, chain⟩) last
      have := bounded within
      omega

end Store.Pageable

/-- **Paging is invisible.**  With pages of any size the reading is the same: it has exactly the
records of the chain from its start on and below the length of the tip row, in order, which is what
one query for all of them has. -/
theorem paging_is_invisible (found : db.store = .ok s) (keys : s.KeysHold) (position : IsWord start)
    (pageable : s.Pageable c start) :
    ∃ l, (∀ size, IsWord size → size ≠ 0 → Chain.read ⟨c, .int start, size⟩ db = ⟨l, none⟩) ∧
      db.page ⟨c, .int start, -1⟩ (.int start) (s.lengthOf c) = .ok l ∧
      (∀ r, r ∈ l ↔ r ∈ s.records ∧ r.chain = c ∧
        (Cell.int start).atMost r.idx = true ∧ r.idx.below (s.lengthOf c) = true) ∧
      l.Pairwise fun a b => a.idx.below b.idx = true := by
  obtain ⟨n, ends, -⟩ := Cell.exists_ends pageable.number pageable.stored
  have finds : (⟨c, .int start, -1⟩ : Chain).Finds (fun _ => db) start (s.lengthOf c)
      (s.window c (.int start) (s.lengthOf c)) :=
    fun _ => ⟨s, found, fun _ later => Store.window_eq_remaining later⟩
  have query := finds.page (show IsWord (-1) by decide) ends (Int.le_refl start) position 0
  rw [remaining_eq_self fun r member => (Store.mem_window.1 member).2.2.1] at query
  refine ⟨s.window c (.int start) (s.lengthOf c), fun size word nonzero => ?_, query,
    fun r => Store.mem_window, Store.window_strict keys⟩
  exact pageable.read found keys position word nonzero

/-- A reading of damaged tables: there is a gap, a negative position, one beyond the length, and
the page ends at the length. -/
theorem paging_is_invisible_of_gaps :
    let c : ChainName := ⟨.ofNat 7, .text "history"⟩
    let record (id : Nat) (idx : Int) : Record :=
      ⟨.ofNat id, c, Uuid.nil, .int 0, .text "v0", [], .int 0, .int idx, default⟩
    let s : Store := ⟨[record 5 9, record 1 (-2), record 2 0, record 3 3, record 4 4],
      [⟨c, .int 0, .ofNat 4, .int 5, default⟩]⟩
    let db : Database := ⟨true, some s, none⟩
    ∀ size, IsWord size → size ≠ 0 →
      Chain.read ⟨c, .int (-2), size⟩ db = ⟨[record 1 (-2), record 2 0, record 3 3, record 4 4], none⟩ := by
  intro c record s db size word nonzero
  have pageable : s.Pageable c (-2) := by
    refine ⟨rfl, rfl, fun r member _ _ => ?_, .inl (by decide)⟩
    have stored := (Store.mem_ofChain.1 member).1
    simp only [s, List.mem_cons, List.not_mem_nil, or_false] at stored
    rcases stored with rfl | rfl | rfl | rfl | rfl <;> exact ⟨_, rfl, by decide⟩
  have found : db.store = .ok s := rfl
  have keys : s.KeysHold := ⟨by decide +kernel, by decide⟩
  obtain ⟨l, read, query, -⟩ := paging_is_invisible found keys (by decide) pageable
  obtain rfl := Except.ok.inj query
  exact read size word nonzero

/-- Where edits have left what is no number to count up to, paging shows.  A record at a fraction is
passed over if a page ends right before it; a length that is a text cannot be compared with the start,
although one query finds all records below it; and a length past all positions is asked for the
position after the last one. -/
theorem fraction_between_pages :
    let c : ChainName := ⟨.ofNat 7, .text "history"⟩
    let record (id : Nat) (idx : Cell) : Record :=
      ⟨.ofNat id, c, Uuid.nil, .int 0, .text "v0", [], .int 0, idx, default⟩
    let store (length idx : Cell) : Store :=
      ⟨[record 1 (.int 0), record 2 (.int 1), record 3 idx], [⟨c, .int 0, .ofNat 2, length, default⟩]⟩
    let db (length idx : Cell) : Database := ⟨true, some (store length idx), none⟩
    let last : Int := 0x7fffffffffffffff
    let half : Cell := .real 0x3fe0000000000000
    let vast : Cell := .real 0x43f0000000000000
    let edited (length idx : Value) := (db (.int 2) (.int 5)).edit default
      [.setTip (.uuid (.ofNat 7)) (.text "history") [(.length, length)],
        .setRecord (.uuid (.ofNat 3)) [(.idx, idx)]] false
    (edited (.int 2) (.float (.ofBits 0x3fe0000000000000)) = .ok (db (.int 2) half) ∧
      (store (.int 2) half).KeysHold ∧
      Chain.read ⟨c, .int 0, 100⟩ (db (.int 2) half) =
        ⟨[record 1 (.int 0), record 3 half, record 2 (.int 1)], none⟩ ∧
      Chain.read ⟨c, .int 0, 1⟩ (db (.int 2) half) = ⟨[record 1 (.int 0), record 2 (.int 1)], none⟩) ∧
    (edited (.text "abc") (.int 2) = .ok (db (.text "abc") (.int 2)) ∧
      (store (.text "abc") (.int 2)).KeysHold ∧
      Chain.read ⟨c, .int 0, 100⟩ (db (.text "abc") (.int 2)) =
        ⟨[], some (.operand (.notOrdered "int" "str"))⟩ ∧
      (db (.text "abc") (.int 2)).page ⟨c, .int 0, -1⟩ (.int 0) (.text "abc") =
        .ok [record 1 (.int 0), record 2 (.int 1), record 3 (.int 2)]) ∧
    edited (.float (.ofBits 0x43f0000000000000)) (.int last) = .ok (db vast (.int last)) ∧
      (store vast (.int last)).KeysHold ∧
      Chain.read ⟨c, .int 0, 100⟩ (db vast (.int last)) =
        ⟨[record 1 (.int 0), record 2 (.int 1), record 3 (.int last)],
          some (.storage (.parameter .tooLarge))⟩ := by
  intro c record store db last half vast edited
  refine ⟨⟨rfl, ⟨by decide +kernel, by decide⟩, by rfl, by rfl⟩,
    ⟨rfl, ⟨by decide +kernel, by decide⟩, by rfl, by rfl⟩, rfl, ⟨by decide +kernel, by decide⟩, by rfl⟩

end ChainLog
