/-
# Drafts that failed to be appended

An append changes its draft before it can fail: it replaces the identifiers that it has read, and
leaves a position in the draft that its record then may not get.  None of this is seen by a later
append: the identifiers are read as themselves (`settle_settled`), and the position is given anew
before a record is written (`Alike.complete`).  So a draft that was never stored, whatever appends
of it have failed and whatever was assigned to its fields in between (`Unstored`), is appended like
a new draft with the same fields (`append_of_unstored`), and an append that has failed fails again.
-/
import ChainLog.Proofs.AtomicAppend
import ChainLog.Proofs.Undated

namespace ChainLog

set_option autoImplicit false

/-- The fields that a writer gives to a record: all but those that an append gives to it. -/
def Field.own : List Field := [.id, .host, .parent, .timestamp, .version, .tag, .payload, .userId]

theorem Value.toUuid_uuid (u : Uuid) : (Value.uuid u).toUuid = .ok u := rfl

namespace Draft

/-- The same fields in a draft that no append has taken yet. -/
def anew (d : Draft) : Draft :=
  ⟨d.id, d.host, d.parent, d.timestamp, d.version, d.tag, d.payload, d.userId, .none, .pending, .new⟩

/-- The drafts that were never stored: new ones, and what assignments to the writer's fields and
failed appends make of them. -/
inductive Unstored : Draft → Prop where
  | new (d : Draft) : Unstored d.anew
  | assigned {d : Draft} {f : Field} (unstored : Unstored d) (own : f ∈ Field.own) (v : Value) :
      Unstored (d.set v f)
  /-- An append, with anything done to the database between its look-ups and its writes. -/
  | failed {d d' : Draft} {meanwhile : Database → Database} {db db' : Database}
      {planned now : Time.Instant} {log : List LogLine} {err : AppendError} (unstored : Unstored d)
      (append : d.appendAmid meanwhile db planned now = (db', d', log, .error err)) : Unstored d'

/-- The drafts differ at most in the position that an append has left in them. -/
def Alike (a b : Draft) : Prop := ∃ v, b = { a with idx := v }

variable {a b d d' : Draft} {meanwhile : Database → Database} {db db' : Database} {s : Store}
  {p : Pending} {planned now : Time.Instant} {log : List LogLine} {err : AppendError}

theorem Alike.refl (d : Draft) : d.Alike d := ⟨d.idx, rfl⟩

theorem Alike.trans {c : Draft} (first : a.Alike b) (second : b.Alike c) : a.Alike c := by
  obtain ⟨v, rfl⟩ := first
  obtain ⟨w, rfl⟩ := second
  exact ⟨w, rfl⟩

theorem Alike.anew_eq (alike : a.Alike b) : b.anew = a.anew := by
  obtain ⟨v, rfl⟩ := alike
  rfl

/-! ## Settling -/

/-- What settling makes of a draft that passes the check. -/
theorem settle_of_check {payload : List UInt8} {timestamp userId : Int}
    (checked : d.check = .ok (payload, timestamp, userId)) :
    d.settle =
      match d.id.toUuid, d.host.toUuid, d.parent.toUuid with
      | .error e, _, _ => (d, .error (.badIdentifier e))
      | .ok id, .error e, _ => ({ d with id := .uuid id }, .error (.badIdentifier e))
      | .ok id, .ok host, .error e =>
          ({ d with id := .uuid id, host := .uuid host }, .error (.badIdentifier e))
      | .ok id, .ok host, .ok parent =>
          ({ d with id := .uuid id, host := .uuid host, parent := .uuid parent },
            .ok ⟨id, host, d.tag, parent, timestamp, d.version, payload, userId⟩) := by
  unfold settle settleField
  rw [checked]
  cases id : d.id.toUuid with
  | error e => simp only [get, id]
  | ok u =>
    cases host : d.host.toUuid with
    | error e => simp only [get, set, id, host]
    | ok v => cases parent : d.parent.toUuid <;> simp only [get, set, id, host, parent]

theorem missing_eq_nil_iff :
    d.missing = [] ↔ ¬d.id.isNone ∧ ¬d.host.isNone ∧ ¬d.timestamp.isNone ∧ ¬d.version.isNone ∧
      ¬d.tag.isNone ∧ ¬d.payload.isNone ∧ ¬d.userId.isNone := by
  simp [missing, required, get]

/-- A draft that passes the check has an identifier and a host; what they are is not checked. -/
theorem check_of_identifiers {result : List UInt8 × Int × Int} (checked : d.check = .ok result) :
    ¬d.id.isNone ∧ ¬d.host.isNone ∧ ∀ id host parent : Value, ¬id.isNone → ¬host.isNone →
      ({ d with id := id, host := host, parent := parent } : Draft).check = .ok result := by
  unfold check at checked
  split at checked
  · rename_i complete
    obtain ⟨named, hosted, others⟩ := missing_eq_nil_iff.1 complete
    refine ⟨named, hosted, fun id host parent named hosted => ?_⟩
    have complete : ({ d with id := id, host := host, parent := parent } : Draft).missing = [] :=
      missing_eq_nil_iff.2 ⟨named, hosted, others⟩
    unfold check
    rw [if_pos complete]
    exact checked
  · cases checked

/-- Settling once more changes nothing, also where it has stopped halfway. -/
theorem settle_settled (d : Draft) : d.settle.1.settle = d.settle := by
  rcases checked : d.check with e | ⟨payload, timestamp, userId⟩
  · have same : d.settle = (d, .error e) := by
      unfold settle
      rw [checked]
    rw [same, same]
  · obtain ⟨-, hosted, check⟩ := check_of_identifiers checked
    have spelled (u : Uuid) : ¬(Value.uuid u).isNone := Bool.false_ne_true
    rw [settle_of_check checked]
    cases id : d.id.toUuid with
    | error e =>
      simp only
      rw [settle_of_check checked, id]
    | ok u =>
      cases host : d.host.toUuid with
      | error e =>
        simp only
        rw [settle_of_check (check _ _ d.parent (spelled u) hosted), Value.toUuid_uuid, host]
      | ok v =>
        cases parent : d.parent.toUuid with
        | error e =>
          simp only
          rw [settle_of_check (check _ _ d.parent (spelled u) (spelled v)), Value.toUuid_uuid,
            Value.toUuid_uuid, parent]
        | ok w =>
          simp only
          rw [settle_of_check (check _ _ (.uuid w) (spelled u) (spelled v)), Value.toUuid_uuid,
            Value.toUuid_uuid, Value.toUuid_uuid]

theorem Alike.settle (alike : a.Alike b) :
    a.settle.1.Alike b.settle.1 ∧ b.settle.2 = a.settle.2 := by
  obtain ⟨v, rfl⟩ := alike
  have check : ({ a with idx := v } : Draft).check = a.check := rfl
  rcases checked : a.check with e | ⟨payload, timestamp, userId⟩
  · unfold Draft.settle
    rw [check, checked]
    exact ⟨⟨v, rfl⟩, rfl⟩
  · rw [settle_of_check checked, settle_of_check (check.trans checked)]
    cases a.id.toUuid with
    | error e => exact ⟨⟨v, rfl⟩, rfl⟩
    | ok id =>
      cases a.host.toUuid with
      | error e => exact ⟨⟨v, rfl⟩, rfl⟩
      | ok host => cases a.parent.toUuid <;> exact ⟨⟨v, rfl⟩, rfl⟩

/-! ## Appending -/

/-- The look-ups of an append do not see a position in the draft. -/
theorem Alike.prepare (alike : a.Alike b) (db : Database) (now : Time.Instant) :
    (a.prepare db now).1.Alike (b.prepare db now).1 ∧
      (b.prepare db now).2 = (a.prepare db now).2 := by
  have origin : b.origin = a.origin := by
    obtain ⟨v, rfl⟩ := alike
    rfl
  obtain ⟨settled, outcome⟩ := alike.settle
  unfold Draft.prepare
  rw [origin]
  split
  · exact ⟨alike, rfl⟩
  rcases left : a.settle with ⟨a', err | e⟩ <;> rcases right : b.settle with ⟨b', err' | e'⟩ <;>
    simp only [left, right, reduceCtorEq, Except.error.injEq, Except.ok.injEq] at settled outcome
  · subst outcome
    exact ⟨settled, rfl⟩
  subst outcome
  cases db.store with
  | error err => exact ⟨settled, rfl⟩
  | ok s =>
    simp only
    cases s.plan e' with
    | error err => exact ⟨settled, rfl⟩
    | ok p =>
      obtain ⟨v, rfl⟩ := settled
      cases p with
      | start chain => exact ⟨⟨.int 0, rfl⟩, rfl⟩
      | extend c idx => exact ⟨⟨v, rfl⟩, rfl⟩

/-- An append gives the draft its position before its record is written. -/
theorem Alike.complete (alike : a.Alike b) (p : Pending) (db : Database) (now : Time.Instant) :
    ∃ db' log outcome a' b', a.complete p db now = (db', a', log, outcome) ∧
      b.complete p db now = (db', b', log, outcome) ∧ a'.Alike b' ∧ (outcome = .ok () → a' = b') := by
  obtain ⟨v, rfl⟩ := alike
  unfold Draft.complete
  cases db.store with
  | error err => exact ⟨_, _, _, _, _, rfl, rfl, ⟨v, rfl⟩, fun made => by cases made⟩
  | ok s =>
    simp only
    cases s.writeTip p.entry p.planned p.plan with
    | error err => exact ⟨_, _, _, _, _, rfl, rfl, ⟨v, rfl⟩, fun made => by cases made⟩
    | ok s' =>
      simp only
      cases p.plan.idx? with
      | error err => exact ⟨_, _, _, _, _, rfl, rfl, ⟨v, rfl⟩, fun made => by cases made⟩
      | ok idx => exact ⟨_, _, _, _, _, rfl, rfl, .refl _, fun _ => rfl⟩

/-- Of drafts that are alike the append is the same, and so is the record that it returns. -/
theorem Alike.appendAmid (alike : a.Alike b) (meanwhile : Database → Database) (db : Database)
    (planned now : Time.Instant) :
    ∃ db' log outcome a' b', a.appendAmid meanwhile db planned now = (db', a', log, outcome) ∧
      b.appendAmid meanwhile db planned now = (db', b', log, outcome) ∧
      a'.Alike b' ∧ (outcome = .ok () → a' = b') := by
  obtain ⟨prepared, same⟩ := alike.prepare db planned
  unfold Draft.appendAmid
  rcases left : a.prepare db planned with ⟨a', log, outcome⟩
  rcases right : b.prepare db planned with ⟨b', log', outcome'⟩
  simp only [left, right, Prod.mk.injEq] at prepared same
  obtain ⟨rfl, rfl⟩ := same
  cases outcome' with
  | error err => exact ⟨_, _, _, _, _, rfl, rfl, prepared, fun made => by cases made⟩
  | ok p =>
    obtain ⟨db', log, outcome, a'', b'', first, second, completed, returned⟩ :=
      prepared.complete p (meanwhile db) now
    simp only [first, second]
    exact ⟨_, _, _, _, _, rfl, rfl, completed, returned⟩

/-! ## What a failure leaves -/

/-- The look-ups leave a draft settled as far as it can be, and maybe with another position. -/
theorem alike_prepare (kept : d.origin ≠ .lost) (db : Database) (now : Time.Instant) :
    d.settle.1.Alike (d.prepare db now).1 := by
  unfold prepare
  rw [if_neg kept]
  rcases d.settle with ⟨d', invalid | e⟩
  · exact .refl d'
  · cases db.store with
    | error err => exact .refl d'
    | ok s =>
      simp only
      cases s.plan e with
      | error err => exact .refl d'
      | ok p => cases p <;> exact ⟨_, rfl⟩

theorem alike_of_complete_error (new : d.origin = .new)
    (failed : d.complete p db now = (db', d', log, .error err)) : d.Alike d' := by
  cases found : db.store with
  | error err' =>
    simp only [complete, found, Prod.mk.injEq] at failed
    exact failed.2.1 ▸ .refl d
  | ok s =>
    cases committed : d.commit s p now with
    | error err' =>
      obtain ⟨idx, same, -⟩ := complete_of_error new found committed
      rw [same, Prod.mk.injEq, Prod.mk.injEq] at failed
      exact ⟨idx, failed.2.1.symm⟩
    | ok s' =>
      obtain ⟨idx, -, same⟩ := complete_of_ok new found committed
      rw [same] at failed
      cases failed

theorem alike_of_failed (new : d.origin = .new)
    (failed : d.appendAmid meanwhile db planned now = (db', d', log, .error err)) :
    d.settle.1.Alike d' := by
  have settled := alike_prepare (d := d) (by simp [new]) db planned
  unfold appendAmid at failed
  rcases looked : d.prepare db planned with ⟨d₁, log₁, err₁ | pending⟩
  · rw [looked] at failed settled
    simp only [Prod.mk.injEq] at failed
    exact failed.2.1 ▸ settled
  · rw [looked] at failed settled
    obtain ⟨new', -⟩ := prepare_ok new looked
    rcases written : d₁.complete pending (meanwhile db) now with ⟨db₂, d₂, log₂, outcome⟩
    simp only [written, Prod.mk.injEq] at failed
    obtain ⟨-, rfl, -, rfl⟩ := failed
    exact settled.trans (alike_of_complete_error new' written)

/-- A draft that was never stored is nothing but its own fields and a position. -/
theorem Unstored.anew_alike (unstored : d.Unstored) : d.anew.Alike d := by
  suffices d.origin = .new ∧ d.createdAt = .pending by
    rcases d with ⟨id, host, parent, timestamp, version, tag, payload, userId, idx, created, origin⟩
    obtain ⟨rfl, rfl⟩ := this
    exact ⟨idx, rfl⟩
  induction unstored with
  | new d => exact ⟨rfl, rfl⟩
  | @assigned d f _ own v keeps =>
    simp only [Field.own, List.mem_cons, List.not_mem_nil, or_false] at own
    rcases own with rfl | rfl | rfl | rfl | rfl | rfl | rfl | rfl <;> exact keeps
  | @failed d d' _ _ _ _ _ _ _ _ append keeps =>
    obtain ⟨idx, rfl⟩ := alike_of_failed keeps.1 append
    exact ⟨settle_keeps.1.trans keeps.1, settle_keeps.2.trans keeps.2⟩

/-! ## Failing again -/

theorem prepare_settled (kept : d.origin ≠ .lost) (db : Database) (now : Time.Instant) :
    d.settle.1.prepare db now = d.prepare db now := by
  have kept' : d.settle.1.origin ≠ .lost := by rwa [settle_keeps.1]
  unfold prepare
  rw [if_neg kept, if_neg kept', settle_settled]

/-- The look-ups do not ask for the time. -/
theorem prepare_planned (d : Draft) (db : Database) (planned now : Time.Instant) :
    d.prepare db now = ((d.prepare db planned).1, (d.prepare db planned).2.1,
      (d.prepare db planned).2.2.map fun p => { p with planned := now }) := by
  unfold prepare
  split
  · rfl
  · rcases d.settle with ⟨d', invalid | e⟩
    · rfl
    · cases db.store with
      | error err => rfl
      | ok s =>
        simp only
        cases s.plan e <;> rfl

/-- Writes that fail do so at any time. -/
theorem complete_error_planned (planned' now' : Time.Instant) (new : d.origin = .new)
    (failed : (d.complete p db now).2.2.2 = .error err) :
    (d.complete { p with planned := planned' } db now').2.2.2 = .error err := by
  cases found : db.store with
  | error err' =>
    simp only [complete, found] at failed ⊢
    exact failed
  | ok s =>
    cases committed : d.commit s p now with
    | error err' =>
      obtain ⟨idx, same, -⟩ := complete_of_error new found committed
      obtain ⟨idx', same', -⟩ := complete_of_error new found
        (commit_error_of_undated planned' now' rfl committed)
      rw [same] at failed
      rw [same']
      exact failed
    | ok s' =>
      obtain ⟨idx, -, same⟩ := complete_of_ok new found committed
      rw [same] at failed
      cases failed

/-- A settled draft fails as the draft did, at any time. -/
theorem settled_appendAmid_error (planned' now' : Time.Instant) (new : d.origin = .new)
    (failed : (d.appendAmid meanwhile db planned now).2.2.2 = .error err) :
    (d.settle.1.appendAmid meanwhile db planned' now').2.2.2 = .error err := by
  unfold appendAmid at failed ⊢
  rw [prepare_settled (by simp [new]), prepare_planned d db planned planned']
  rcases looked : d.prepare db planned with ⟨d₁, log₁, err₁ | pending⟩
  · rw [looked] at failed
    exact failed
  · rw [looked] at failed
    obtain ⟨new', -⟩ := prepare_ok new looked
    exact complete_error_planned planned' now' new' failed

/-- **A draft that was never stored carries nothing but its fields.**  Whatever appends of it have
failed: an append of it ends as that of a new draft with the same fields, in the same tables, with
the same log and either the same record or the same error, and leaves the same fields; and if it
fails, it fails again on the same tables, at any time. -/
theorem append_of_unstored (unstored : d.Unstored) (meanwhile : Database → Database) (db : Database)
    (planned now : Time.Instant) :
    ∃ db' log outcome a b, d.appendAmid meanwhile db planned now = (db', a, log, outcome) ∧
      d.anew.appendAmid meanwhile db planned now = (db', b, log, outcome) ∧
      a.anew = b.anew ∧ (outcome = .ok () → a = b) ∧
      ∀ err, outcome = .error err → ∀ planned' now',
        (a.appendAmid meanwhile db planned' now').2.2.2 = .error err := by
  have alike := unstored.anew_alike
  have new : d.origin = .new := by
    obtain ⟨v, same⟩ := alike
    rw [same]
    rfl
  obtain ⟨db', log, outcome, b, a, first, second, left, returned⟩ :=
    alike.appendAmid meanwhile db planned now
  refine ⟨db', log, outcome, a, b, second, first, left.anew_eq, fun made => (returned made).symm, ?_⟩
  rintro err rfl planned' now'
  have again := settled_appendAmid_error planned' now' new
    (congrArg (fun result => result.2.2.2) second)
  obtain ⟨_, _, _, _, _, settled, failed, -⟩ :=
    (alike_of_failed new second).appendAmid meanwhile db planned' now'
  rw [settled] at again
  rw [failed]
  exact again

/-- A draft whose record found its position taken has kept the position; it is assigned to another
chain, and starts that chain at the beginning. -/
theorem append_of_unstored_after_conflict :
    let c : ChainName := ⟨.ofNat 7, .text "history"⟩
    let record (id : Nat) (idx : Int) : Record :=
      ⟨.ofNat id, c, Uuid.nil, .int 0, .text "v0", [], .int 0, .int idx, default⟩
    let db : Database :=
      ⟨true, some ⟨[record 1 0, record 9 1], [⟨c, .int 0, .ofNat 1, .int 1, default⟩]⟩, none⟩
    let left := ((numbered 2 1 "history" (.text "v0")).append db default).2.1
    let d := (left.set (.text "drafts") .tag).set (.uuid Uuid.nil) .parent
    d.Unstored ∧ d.idx = .int 1 ∧
      ∃ db' log a, d.append db default = (db', a, log, .ok ()) ∧
        d.anew.append db default = (db', a, log, .ok ()) ∧ a.idx = .int 0 := by
  intro c record db left d
  have failed : (numbered 2 1 "history" (.text "v0")).appendAmid (fun db => db) db default default =
      (db, left, [.refused (.ofNat 2) (.ofNat 7) (.text "history") (.conflict (.ofNat 2))],
        .error (.refused (.conflict (.ofNat 2)) true)) := rfl
  have unstored : d.Unstored :=
    (((Unstored.new (numbered 2 1 "history" (.text "v0"))).failed failed).assigned (f := .tag)
      (by decide) _).assigned (f := .parent) (by decide) _
  obtain ⟨db', log, outcome, a, b, first, second, -, returned, -⟩ :=
    append_of_unstored unstored (fun db => db) db default default
  obtain rfl : outcome = .ok () := (congrArg (fun result => result.2.2.2) first).symm
  have position : a.idx = .int 0 := (congrArg (fun result => result.2.1.idx) first).symm
  obtain rfl := returned rfl
  exact ⟨unstored, rfl, db', log, a, first, second, position⟩

end Draft

end ChainLog
