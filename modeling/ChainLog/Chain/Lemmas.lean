/-
# Laws of windows

A window holds exactly the records of its chain between its two positions
(`mem_window`), in order; under the keys of the tables no two of them share a
position (`window_strict`).  Whatever a reading has, down to where it ends or fails, it has
from the tables (`Chain.stored_of_read`).
-/
import ChainLog.Chain
import ChainLog.Store.Lemmas

namespace ChainLog

set_option autoImplicit false

namespace Store

variable {s : Store} {c : ChainName} {position stop : Cell} {r : Record}

theorem mem_window :
    r ∈ s.window c position stop ↔
      r ∈ s.records ∧ r.chain = c ∧ position.atMost r.idx = true ∧ r.idx.below stop = true := by
  simp only [window, Sorted.mem_sort, ofChain, List.mem_filter, decide_eq_true_eq,
    Bool.and_eq_true, and_assoc]

theorem window_ascending :
    (s.window c position stop).Pairwise fun a b => a.idx.atMost b.idx = true :=
  @Sorted.sort_pairwise Record (fun a b => a.idx.atMost b.idx)
    (fun _ _ => Cell.atMost_total) (fun _ _ _ => Cell.atMost_trans) _

/-- Under the keys the positions of a window ascend strictly. -/
theorem window_strict (keys : KeysHold s) :
    (s.window c position stop).Pairwise fun a b => a.idx.below b.idx = true := by
  have perm : (s.window c position stop).Perm _ := Sorted.sort_perm _ _
  have apart : (s.window c position stop).Pairwise fun a b => ¬ Clash a b := by
    refine (perm.pairwise_iff fun h k => h k.symm).2 ?_
    exact (keys.records.filter _).filter _
  refine (List.Pairwise.and_mem.1 (window_ascending.and apart)).imp ?_
  rintro a b ⟨ha, hb, le, different⟩
  have same : a.chain = b.chain := (mem_window.1 ha).2.1.trans (mem_window.1 hb).2.1.symm
  exact Cell.below_of_atMost le fun e => different (.inr ⟨same, e⟩)

theorem limit_sublist {α : Type} (n : Int) (l : List α) : (limit n l).Sublist l := by
  unfold limit
  split
  · exact List.Sublist.refl l
  · exact List.take_sublist _ l

end Store

variable {s : Store} {db : Database} {view : Nat → Database} {k : Chain} {position stop : Cell}
  {r : Record} {l : List Record}

/-- What can be asked for is answered with the page. -/
theorem Database.page_eq_ok_iff (found : db.store = .ok s) :
    db.page k position stop = .ok l ↔ position.parameter = .ok position ∧
      stop.parameter = .ok stop ∧ IsWord k.pageSize ∧ l = s.page k position stop := by
  unfold Database.page
  rw [found]
  cases first : position.parameter with
  | error e => exact ⟨nofun, nofun⟩
  | ok position' =>
      obtain rfl := Cell.parameter_eq_ok first
      cases last : stop.parameter with
      | error e => exact ⟨nofun, nofun⟩
      | ok stop' =>
          obtain rfl := Cell.parameter_eq_ok last
          change (if IsWord k.pageSize then Except.ok (s.page k position' stop')
            else .error (StorageError.parameter .tooLarge)) = .ok l ↔ _
          split
          · rename_i word
            exact ⟨fun read => ⟨rfl, rfl, word, (Except.ok.inj read).symm⟩, fun h => by rw [h.2.2.2]⟩
          · rename_i large
            exact ⟨nofun, fun h => absurd h.2.2.1 large⟩

/-- The records of a page are stored. -/
theorem Database.stored_of_page (read : db.page k position stop = .ok l) (member : r ∈ l) :
    ∃ s, db.store = .ok s ∧ r ∈ s.records := by
  cases found : db.store with
  | error e =>
      unfold Database.page at read
      rw [found] at read
      cases read
  | ok s =>
      obtain ⟨-, -, -, rfl⟩ := (Database.page_eq_ok_iff found).1 read
      exact ⟨s, rfl, (Store.mem_window.1 ((Store.limit_sublist _ _).subset member)).1⟩

namespace Chain

theorem stored_of_pagesFrom (fuel i : Nat) (position : Cell)
    (member : r ∈ (k.pagesFrom view stop fuel i position).records) :
    ∃ j s, (view j).store = .ok s ∧ r ∈ s.records := by
  induction fuel generalizing i position with
  | zero => cases member
  | succ fuel ih =>
    unfold pagesFrom at member
    split at member
    · cases member
    · cases member
    · split at member
      · cases member
      · rename_i page read
        split at member
        · cases member
        · rcases List.mem_append.1 member with here | later
          · obtain ⟨s, found, stored⟩ := Database.stored_of_page read here
            exact ⟨i, s, found, stored⟩
          · split at later
            · cases later
            · split at later
              · exact ih (i + 1) _ later
              · cases later

/-- What a reading of a database that does not change has is stored in it. -/
theorem stored_of_read (found : db.store = .ok s) (member : r ∈ (k.read db).records) :
    r ∈ s.records := by
  simp only [read, readWith, found, readUpTo] at member
  obtain ⟨-, t, found', stored⟩ := stored_of_pagesFrom _ _ _ member
  rw [found] at found'
  obtain rfl := Except.ok.inj found'
  exact stored

end Chain

end ChainLog
