/-
# Appends to different chains

What becomes of an append is the same on all tables that differ from given ones only by records of
other chains (`Draft.Course`): it fails in the same way, or it stores the same record.  Only an
orphan may find its parent beside, and is refused as a fork then.  So two appends to different
chains can be made in either order (`appends_commute`).  Nothing is assumed of the tables, not even
their keys.
-/
import ChainLog.Proofs.Interleaving
import ChainLog.Proofs.OtherChains

namespace ChainLog

set_option autoImplicit false

variable {s t : Store} {e e' : Entry} {p : Plan} {c c' : ChainName} {now : Time.Instant}
  {tag : String} {id : Uuid}

/-! ## What becomes of an append beside others' -/

namespace Draft

variable {d d' : Draft}

/-- The look-ups that let a draft go on warn of the same, whatever is beside. -/
theorem prepare_beside (now : Time.Instant) (new : d.origin = .new)
    (settled : d.settle = (d', .ok e)) (chain : p.chain? = some c) :
    ∃ d₁ log, d₁.origin = .new ∧ ∀ db t others, db.store = .ok t → s.Beside t e c others →
      t.plan e = .ok p → d.prepare db now = (d₁, log, .ok ⟨e, p, now⟩) := by
  have lost : d.origin ≠ .lost := by simp [new]
  have kept := settle_keeps.1.trans new
  rw [settled] at kept
  let log := (s.otherOwner? e p).toList.map fun owner =>
    LogLine.otherOwner e.id e.host e.tag e.userId owner
  cases p with
  | start named =>
      refine ⟨{ d' with idx := .int 0 }, log, kept, fun db t others found beside planned => ?_⟩
      simp only [prepare, if_neg lost, settled, found, planned, beside.otherOwner? chain, log]
  | extend d idx =>
      refine ⟨d', log, kept, fun db t others found beside planned => ?_⟩
      simp only [prepare, if_neg lost, settled, found, planned, beside.otherOwner? chain, log]

/-- The record of a draft is refused in the same way whatever is beside, or the same one is
written. -/
theorem write_beside (s : Store) (e : Entry) (idx : Cell) (now : Time.Instant)
    (new : d.origin = .new) (chain : p.chain? = some c) :
    (∃ d' err, ∀ t others tips, s.Beside t e c others →
        d.write ⟨t.records, tips⟩ e p idx now = (d', .error err)) ∨
      ∃ d' q, (q.chain = c ∧ q.id = e.id) ∧ ∀ t others tips, s.Beside t e c others →
        d.write ⟨t.records, tips⟩ e p idx now = (d', .ok ⟨t.records ++ [q], tips⟩) := by
  by_cases barred : ∃ v, d.createdAt = .assigned v
  · obtain ⟨v, dated⟩ := barred
    exact .inl ⟨d, _, fun _ _ _ _ => write_of_assigned new dated⟩
  have dated (v : Value) : d.createdAt ≠ .assigned v := fun same => barred ⟨v, same⟩
  cases row : e.row c idx now with
  | error err =>
      refine .inl ⟨d, err, fun t others tips _ => ?_⟩
      apply write_of_error new dated chain
      rw [Store.writeRecord_eq, row]
  | ok q =>
      have stored := Entry.row_eq_ok row
      cases added : s.addRecord? q with
      | none =>
          refine .inl ⟨d, .refused (.conflict e.id) true, fun t others tips beside => ?_⟩
          apply write_of_error new dated chain
          rw [Store.writeRecord_eq, row]
          simp only [beside.addRecord? stored s.tips tips, added]
          rfl
      | some s' =>
          refine .inr ⟨{ d with createdAt := .stored now, origin := .stored e idx }, q, stored, ?_⟩
          intro t others tips beside
          apply write_of_ok new dated chain
          rw [Store.writeRecord_eq, row]
          simp only [beside.addRecord? stored s.tips tips, added]
          rfl

/-- The writes of a planned append fail in the same way whatever is beside, or store the same
record. -/
theorem complete_beside (s : Store) (e : Entry) (planned now : Time.Instant) (new : d.origin = .new)
    (chain : p.chain? = some c) :
    (∃ d' log err, ∀ db t others, db.store = .ok t → s.Beside t e c others →
        d.complete ⟨e, p, planned⟩ db now = (db, d', log, .error err)) ∨
      ∃ d' log q, (q.chain = c ∧ q.id = e.id) ∧
        ∀ db t others, db.store = .ok t → s.Beside t e c others →
          d.complete ⟨e, p, planned⟩ db now =
            (db.withStore (t.gaining e p planned q), d', log, .ok ()) := by
  cases tip : s.writeTip e planned p with
  | error err =>
      refine .inl ⟨d, err.log e, err, fun db t others found beside => ?_⟩
      have refused : t.writeTip e planned p = _ := beside.writeTip chain
      rw [tip] at refused
      simp only [complete, found, refused, Except.map]
  | ok s₁ =>
      have written {t : Store} {others : List Record} (beside : s.Beside t e c others) :
          t.writeTip e planned p = .ok ⟨t.records, p.tips e planned t.tips⟩ := by
        rw [beside.writeTip chain, tip]
        rfl
      cases next : p.idx? with
      | error cause =>
          refine .inl ⟨d, [], .operand cause, fun db t others found beside => ?_⟩
          simp only [complete, found, written beside, next]
      | ok idx =>
          let placed : Draft := { d with idx := idx.value }
          rcases write_beside (d := placed) s e idx now new chain with
            ⟨d', err, fails⟩ | ⟨d', q, stored, makes⟩
          · refine .inl ⟨d', err.log e, err, fun db t others found beside => ?_⟩
            simp only [complete, found, written beside, next]
            rw [fails t others _ beside]
          · refine .inr ⟨d', [.appended e.id e.host e.tag idx], q, stored, ?_⟩
            intro db t others found beside
            simp only [complete, found, written beside, next]
            rw [makes t others _ beside]
            rfl

/-- What an append comes to on all tables that are `s` with records of other chains beside. -/
inductive Course (d : Draft) (s : Store) (e : Entry) (c : ChainName) (now : Time.Instant) : Prop
  /-- It fails in the same way. -/
  | failed (d' : Draft) (log : List LogLine) (err : AppendError)
      (comes : ∀ db t others, db.store = .ok t → s.Beside t e c others →
        d.append db now = (db, d', log, .error err))
  /-- It is an orphan, or a fork if its parent is beside. -/
  | orphaned (d' : Draft)
      (comes : ∀ db t others, db.store = .ok t → s.Beside t e c others →
        ∃ r, d.append db now = (db, d', [.refused e.id e.host e.tag r], .error (.refused r false)) ∧
          (r = .orphan e.id e.parent ∨ r = e.forks none ∧ ∃ q ∈ others, q.id = e.parent))
  /-- It stores the same record. -/
  | made (d' : Draft) (log : List LogLine) (p : Plan) (q : Record) (chain : p.chain? = some c)
      (stored : q.chain = c ∧ q.id = e.id)
      (comes : ∀ db t others, db.store = .ok t → s.Beside t e c others →
        d.append db now = (db.withStore (t.gaining e p now q), d', log, .ok ()))

theorem course (known : d.Known s) (entry : d.settled? = some e) (text : e.tag = .text tag)
    (now : Time.Instant) : d.Course s e ⟨e.host, .text tag⟩ now := by
  rcases settled : d.settle with ⟨d', invalid | e'⟩
  · rw [settled?, settled] at entry
    cases entry
  obtain rfl : e' = e := Option.some.inj ((settled?_of_settle settled).symm.trans entry)
  have lost := known.not_lost
  cases planned : s.plan e' with
  | error err =>
      by_cases orphan : err = .refused (.orphan e'.id e'.parent) false
      · refine .orphaned d' fun db t others found beside => ?_
        rcases beside.plan text with same | ⟨-, fork, parent⟩
        · rw [planned, orphan] at same
          exact ⟨_, append_of_refused now lost found settled same, .inl rfl⟩
        · exact ⟨_, append_of_refused now lost found settled fork, .inr ⟨rfl, parent⟩⟩
      · refine .failed d' (err.log e') err fun db t others found beside => ?_
        rcases beside.plan text with same | ⟨absurdity, -⟩
        · exact append_of_refused now lost found settled (same.trans planned)
        · rw [planned] at absurdity
          exact absurd (Except.error.inj absurdity) orphan
  | ok p =>
      obtain ⟨free, fits, -⟩ := Store.plan_eq_ok_iff.1 planned
      have chain := fits.chain_of_text text
      have same {t : Store} {others : List Record}
          (beside : s.Beside t e' ⟨e'.host, .text tag⟩ others) : t.plan e' = .ok p := by
        rcases beside.plan text with same | ⟨absurdity, -⟩
        · exact same.trans planned
        · rw [planned] at absurdity
          cases absurdity
      obtain ⟨d₁, log, new, looks⟩ :=
        prepare_beside (s := s) now (known.isNew settled free) settled chain
      rcases complete_beside s e' now now new chain with
        ⟨d₂, log', err, fails⟩ | ⟨d₂, log', q, stored, makes⟩
      · refine .failed d₂ (log ++ log') err fun db t others found beside => ?_
        simp only [append, looks db t others found beside (same beside),
          fails db t others found beside]
      · refine .made d₂ (log ++ log') p q chain stored fun db t others found beside => ?_
        simp only [append, looks db t others found beside (same beside),
          makes db t others found beside]

namespace Course

variable {db db' : Database} {others : List Record}

/-- An append either leaves the database as it is, whatever is beside, or adds the same record. -/
theorem writes (course : d.Course s e c now) :
    (∀ db t others, db.store = .ok t → s.Beside t e c others → (d.append db now).1 = db) ∨
      ∃ p q, p.chain? = some c ∧ (q.chain = c ∧ q.id = e.id) ∧
        ∀ db t others, db.store = .ok t → s.Beside t e c others →
          (d.append db now).1 = db.withStore (t.gaining e p now q) := by
  cases course with
  | failed d' log err comes =>
      exact .inl fun db t others found beside => by rw [comes db t others found beside]
  | orphaned d' comes =>
      refine .inl fun db t others found beside => ?_
      obtain ⟨r, same, -⟩ := comes db t others found beside
      rw [same]
  | made d' log p q chain stored comes =>
      exact .inr ⟨p, q, chain, stored, fun db t others found beside => by
        rw [comes db t others found beside]⟩

end Course

end Draft

end ChainLog
