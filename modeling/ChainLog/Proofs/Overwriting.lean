/-
# Records that are written again

The draft of a record that is stored already adds no record when it is appended once more.  What
has been changed in it since is put into the row that it was stored as (`Store.overwriteRecord`),
which may be a row of another chain than the one whose tip is moved.  So the tables keep as many
records as they had, all others stay as they are, and the keys hold (`Store.Overwritten`); the tip
row goes as with any append (`Draft.complete_of_stored`).

`update?_eq_ok` says of an update that can be made that it is made column by column.
-/
import ChainLog.Proofs.DraftAppend

namespace ChainLog

set_option autoImplicit false

/-! ## Updates -/

/-- What all results of a function are like, all that it makes of a list are like. -/
theorem forall_mem_of_mapM {α β ε : Type} {f : α → Except ε β} {P : β → Prop} {l : List α}
    {results : List β} (made : l.mapM f = .ok results) (each : ∀ a ∈ l, ∀ b, f a = .ok b → P b) :
    ∀ b ∈ results, P b := by
  induction l generalizing results with
  | nil =>
      obtain rfl : [] = results := Except.ok.inj made
      simp
  | cons a l ih =>
      rw [List.mapM_cons] at made
      cases first : f a with
      | error cause =>
          rw [first] at made
          cases made
      | ok b =>
          cases others : l.mapM f with
          | error cause =>
              rw [first, others] at made
              cases made
          | ok rest =>
              rw [first, others] at made
              obtain rfl : b :: rest = results := Except.ok.inj made
              intro c member
              rcases List.mem_cons.1 member with rfl | later
              · exact each a List.mem_cons_self _ first
              · exact ih others (fun a member => each a (List.mem_cons_of_mem _ member)) c later

/-- All of a list has a value if the list has values. -/
theorem some_mem_of_mapM_id {α : Type} {l : List (Option α)} {values : List α}
    (all : l.mapM id = some values) : ∀ a ∈ values, some a ∈ l := by
  induction l generalizing values with
  | nil =>
      obtain rfl : [] = values := Option.some.inj all
      simp
  | cons first l ih =>
      rw [List.mapM_cons] at all
      obtain ⟨a, rfl, bound⟩ := Option.bind_eq_some_iff.1 all
      obtain ⟨others, rest, same⟩ := Option.bind_eq_some_iff.1 bound
      obtain rfl : a :: others = values := Option.some.inj same
      intro b member
      rcases List.mem_cons.1 member with rfl | later
      · exact List.mem_cons_self
      · exact List.mem_cons_of_mem _ (ih rest b later)

section

variable {κ ρ : Type} [DecidableEq κ] {columns : List κ} {takes : κ → Value → Bool}
  {bind : κ → Value → Except ParameterError (Option (ρ → ρ))} {changes : List (κ × Value)}
  {update : ρ → ρ}

theorem mem_of_mem_inOrder {change : κ × Value} (member : change ∈ inOrder columns changes) :
    change ∈ changes := by
  obtain ⟨f, -, found⟩ := List.mem_filterMap.1 member
  obtain ⟨v, looked, rfl⟩ := Option.map_eq_some_iff.1 found
  obtain ⟨before, after, rfl, -⟩ := List.lookup_eq_some_iff.1 looked
  simp

/-- An update is made of parts, each of which puts one of the changes into its column. -/
theorem update?_eq_ok (made : update? columns takes bind changes = .ok (some update)) :
    ∃ parts : List (ρ → ρ),
      (∀ part ∈ parts, ∃ change ∈ changes, bind change.1 change.2 = .ok (some part)) ∧
        update = fun row => parts.foldl (fun row part => part row) row := by
  unfold update? at made
  simp only [Bind.bind, Except.bind] at made
  split at made
  · cases made
  cases bound : (inOrder columns changes).mapM fun c => bind c.1 c.2 with
  | error cause =>
      rw [bound] at made
      cases made
  | ok updates =>
      rw [bound] at made
      obtain ⟨parts, all, rfl⟩ := Option.map_eq_some_iff.1 (Except.ok.inj made)
      refine ⟨parts, fun part member => ?_, rfl⟩
      have each := forall_mem_of_mapM
        (P := fun u => ∃ change ∈ changes, bind change.1 change.2 = .ok u) bound
        fun change inside _ binds => ⟨change, mem_of_mem_inOrder inside, binds⟩
      exact each (some part) (some_mem_of_mapM_id all part member)

/-- What each part of an update keeps of two rows, the update keeps. -/
theorem update?_induction {R : ρ → ρ → Prop} {a b : ρ}
    (made : update? columns takes bind changes = .ok (some update)) (start : R a b)
    (step : ∀ change ∈ changes, ∀ part, bind change.1 change.2 = .ok (some part) →
      ∀ a b, R a b → R (part a) (part b)) : R (update a) (update b) := by
  obtain ⟨parts, each, rfl⟩ := update?_eq_ok made
  clear made
  show R (parts.foldl (fun row part => part row) a) (parts.foldl (fun row part => part row) b)
  induction parts generalizing a b with
  | nil => exact start
  | cons part parts ih =>
      obtain ⟨change, member, binds⟩ := each part List.mem_cons_self
      exact ih (step change member part binds a b start)
        fun part later => each part (List.mem_cons_of_mem _ later)

end

/-! ## Rows -/

namespace Store

variable {s s' : Store} {id : Uuid} {q r : Record} {changes : List (Field × Value)} {e : Entry}
  {p : Plan} {now : Time.Instant}

/-- The write of the tip leaves the records. -/
theorem writeTip_records (written : s.writeTip e now p = .ok s') : s'.records = s.records := by
  cases p with
  | start chain =>
      cases chain with
      | none => cases written
      | some c =>
          obtain ⟨-, rfl⟩ := writeTip_start_eq_ok_iff.1 written
          rfl
  | extend c idx =>
      obtain ⟨-, rfl⟩ := writeTip_extend_eq_ok_iff.1 written
      rfl

theorem replaceRecord?_eq_some_iff :
    s.replaceRecord? id r = some s' ↔
      (∀ q ∈ s.records, q.id ≠ id → ¬ Clash q r) ∧
        s' = { s with records := s.records.map fun q => if q.id = id then r else q } := by
  unfold replaceRecord? withoutRecord
  split
  · rename_i clash
    simp only [List.any_eq_true, List.mem_filter, decide_eq_true_eq] at clash
    obtain ⟨q, ⟨member, other⟩, h⟩ := clash
    simp only [reduceCtorEq, false_iff, not_and]
    exact fun free => absurd h (free q member other)
  · rename_i free
    simp only [List.any_eq_true, List.mem_filter, decide_eq_true_eq, not_exists, not_and] at free
    simp only [Option.some.injEq]
    exact ⟨fun h => ⟨fun q member other => free q ⟨member, other⟩, h.symm⟩, fun h => h.2.symm⟩

/-- The row of the record `id` has become that of `r`, and nothing else has changed. -/
structure Overwritten (s s' : Store) (id : Uuid) (r : Record) : Prop where
  tips : s'.tips = s.tips
  records : s'.records = s.records.map fun q => if q.id = id then r else q
  keys : s.KeysHold → s'.KeysHold

/-- A record that clashes with no other one may take the place of the one that was there. -/
theorem KeysHold.replaceRecord? (keys : s.KeysHold) (replaced : s.replaceRecord? id r = some s') :
    s'.KeysHold := by
  obtain ⟨free, rfl⟩ := replaceRecord?_eq_some_iff.1 replaced
  refine ⟨List.pairwise_map.2 ?_, keys.tips⟩
  refine keys.records.imp_of_mem fun {a b} ha hb apart => ?_
  by_cases first : a.id = id <;> by_cases second : b.id = id
  · exact absurd (.inl (first.trans second.symm)) apart
  · rw [if_pos first, if_neg second]
    exact fun clash => free b hb second clash.symm
  · rw [if_neg first, if_pos second]
    exact free a ha first
  · rwa [if_neg first, if_neg second]

/-- What writing a record again does to the tables. -/
theorem overwriteRecord_eq_ok (written : s.overwriteRecord id changes = .ok s') :
    ∃ r update, s.record? id = some r ∧
      update? Field.all Field.takes Field.bind changes = .ok (some update) ∧
        s.Overwritten s' id (update r) := by
  unfold overwriteRecord at written
  split at written
  · cases written
  · cases written
  · cases written
  · rename_i update r made found
    split at written
    · rename_i t replaced
      obtain rfl := Except.ok.inj written
      have keys (keys : s.KeysHold) := keys.replaceRecord? replaced
      obtain ⟨-, rfl⟩ := replaceRecord?_eq_some_iff.1 replaced
      exact ⟨r, update, found, made, rfl, rfl, keys⟩
    · cases written

theorem Overwritten.length (overwritten : s.Overwritten s' id r) :
    s'.records.length = s.records.length := by
  rw [overwritten.records, List.length_map]

/-- All other records are still there. -/
theorem Overwritten.others (overwritten : s.Overwritten s' id r) (member : q ∈ s.records)
    (other : q.id ≠ id) : q ∈ s'.records := by
  rw [overwritten.records]
  exact List.mem_map.2 ⟨q, member, if_neg other⟩

end Store

/-! ## Appends of stored drafts -/

namespace Draft

variable {d d' : Draft} {db db' : Database} {s s' : Store} {before e : Entry} {place idx : Cell}
  {p : Plan} {pending : Pending} {now : Time.Instant} {log : List LogLine}

/-- What the write of a stored draft does: nothing if nothing has been changed in the draft. -/
theorem write_of_stored (stored : d.origin = .stored before place)
    (made : d.write s e p idx now = (d', .ok s')) :
    (d.changes before place = [] ∧ s' = s) ∨ ∃ r, s.Overwritten s' before.id r := by
  unfold write at made
  rw [stored] at made
  simp only at made
  split at made
  · rename_i unchanged
    exact .inl ⟨unchanged, (Except.ok.inj (Prod.mk.inj made).2).symm⟩
  · split at made
    · cases made
    · rename_i t again
      obtain rfl := Except.ok.inj (Prod.mk.inj made).2
      obtain ⟨r, update, -, -, row⟩ := Store.overwriteRecord_eq_ok again
      exact .inr ⟨update r, row⟩

/-- Writes of a stored draft that succeed move the tip, and write its record again if anything has
been changed in it.  They add no record, and do not look for it if nothing has. -/
theorem complete_of_stored (stored : d.origin = .stored before place)
    (made : d.complete pending db now = (db', d', log, .ok ())) :
    ∃ s t s', db.store = .ok s ∧
      s.writeTip pending.entry pending.planned pending.plan = .ok t ∧ db' = db.withStore s' ∧
        (s' = t ∨ ∃ r, t.Overwritten s' before.id r) := by
  unfold complete at made
  simp only at made
  split at made
  · cases made
  · rename_i s found
    split at made
    · cases made
    · rename_i t tip
      split at made
      · cases made
      · rename_i idx next
        split at made
        · cases made
        · rename_i d'' s' written
          have origin : ({ d with idx := idx.value } : Draft).origin = .stored before place := stored
          exact ⟨s, t, s', found, tip, (Prod.mk.inj made).1.symm,
            (write_of_stored origin written).imp_left And.right⟩

end Draft

end ChainLog
