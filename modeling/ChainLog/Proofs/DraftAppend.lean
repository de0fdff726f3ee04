/-
# Laws of appending a draft

A draft that was never stored is appended as the entry that it settles to: the halves of its
append are `Store.plan` and `Draft.commit`, which is `Store.commit` unless somebody has assigned
the time of storing, and all that is left of a failure is a position in the draft.  Settling
looks at no store, so it gives the same entry whenever it is done.
-/
import ChainLog.Proofs.AppendHalves

namespace ChainLog

set_option autoImplicit false

theorem Database.store_withStore {db : Database} {s s' : Store} (found : db.store = .ok s) :
    (db.withStore s').store = .ok s' := by
  unfold Database.store at found ⊢
  split at found
  · rename_i opened
    simp [withStore, opened]
  · cases found

namespace Draft

variable {d d' : Draft} {db : Database} {s s' : Store} {e : Entry} {p : Plan}
  {err : AppendError} {invalid : DraftError} {f : Field}

/-! ## Settling -/

theorem settleField_cases :
    (∃ invalid, d.settleField f = (d, .error invalid)) ∨
      ∃ u, (d.get f).toUuid = .ok u ∧ d.settleField f = (d.set (.uuid u) f, .ok u) := by
  unfold settleField
  cases h : (d.get f).toUuid with
  | error failure => exact .inl ⟨_, rfl⟩
  | ok u => exact .inr ⟨u, rfl, rfl⟩

/-- The integers of 64 bits are all that passes as a timestamp or a user. -/
theorem checkWord_eq_ok {v : Value} {n : Int} (passed : checkWord f v = .ok n) :
    v = .int n ∧ IsWord n := by
  unfold checkWord at passed
  split at passed
  · split at passed
    · rename_i word
      obtain rfl := Except.ok.inj passed
      exact ⟨rfl, word⟩
    · cases passed
  · cases passed

theorem checkPayload_eq_ok {v : Value} {payload : List UInt8} (passed : checkPayload v = .ok payload) :
    ∃ carrier, v = .bytes carrier payload := by
  unfold checkPayload at passed
  split at passed
  · rename_i carrier content
    obtain rfl := Except.ok.inj passed
    exact ⟨carrier, rfl⟩
  · cases passed

section

variable {payload : List UInt8} {timestamp userId : Int}

theorem check_parts (h : d.check = .ok (payload, timestamp, userId)) :
    checkPayload d.payload = .ok payload ∧ checkWord .timestamp d.timestamp = .ok timestamp ∧
      checkWord .userId d.userId = .ok userId := by
  unfold check at h
  split at h
  · cases bytes : checkPayload d.payload with
    | error e => rw [bytes] at h; cases h
    | ok content =>
        cases stamp : checkWord .timestamp d.timestamp with
        | error e => rw [bytes, stamp] at h; cases h
        | ok n =>
            cases user : checkWord .userId d.userId with
            | error e => rw [bytes, stamp, user] at h; cases h
            | ok m =>
                rw [bytes, stamp, user] at h
                cases Except.ok.inj h
                exact ⟨rfl, rfl, rfl⟩
  · cases h

/-- What a draft that passes the check has in its fields. -/
theorem check_eq_ok (h : d.check = .ok (payload, timestamp, userId)) :
    (∃ carrier, d.payload = .bytes carrier payload) ∧ d.timestamp = .int timestamp ∧
      d.userId = .int userId := by
  obtain ⟨bytes, stamp, user⟩ := check_parts h
  exact ⟨checkPayload_eq_ok bytes, (checkWord_eq_ok stamp).1, (checkWord_eq_ok user).1⟩

/-- The numbers of a draft that passes the check have 64 bits. -/
theorem isWord_of_check (h : d.check = .ok (payload, timestamp, userId)) :
    IsWord timestamp ∧ IsWord userId := by
  obtain ⟨-, stamp, user⟩ := check_parts h
  exact ⟨(checkWord_eq_ok stamp).2, (checkWord_eq_ok user).2⟩

end

/-- A draft that settles has passed the check. -/
theorem check_of_settle (h : d.settle = (d', .ok e)) :
    d.check = .ok (e.payload, e.timestamp, e.userId) := by
  unfold settle at h
  split at h
  · simp at h
  · rename_i checked
    rw [checked]
    split at h
    · simp at h
    · split at h
      · simp at h
      · split at h
        · simp at h
        · simp only [Prod.mk.injEq, Except.ok.injEq] at h
          obtain ⟨-, rfl⟩ := h
          rfl

/-- What a draft that settles has in its fields, before and after. -/
theorem settle_eq_ok (h : d.settle = (d', .ok e)) :
    (d.id.toUuid = .ok e.id ∧ d.host.toUuid = .ok e.host ∧ d.parent.toUuid = .ok e.parent) ∧
      d' = { d with id := .uuid e.id, host := .uuid e.host, parent := .uuid e.parent } ∧
      d.tag = e.tag ∧ d.version = e.version := by
  unfold settle at h
  split at h
  · simp at h
  · rcases settleField_cases (d := d) (f := .id) with ⟨_, same⟩ | ⟨u, id, same⟩
    · simp [same] at h
    · simp only [same] at h
      rcases settleField_cases (d := d.set (.uuid u) .id) (f := .host) with ⟨_, same⟩ | ⟨v, host, same⟩
      · simp [same] at h
      · simp only [same] at h
        rcases settleField_cases (d := (d.set (.uuid u) .id).set (.uuid v) .host) (f := .parent) with
          ⟨_, same⟩ | ⟨w, parent, same⟩
        · simp [same] at h
        · simp only [same, Prod.mk.injEq, Except.ok.injEq] at h
          obtain ⟨rfl, rfl⟩ := h
          exact ⟨⟨id, host, parent⟩, rfl, rfl, rfl⟩

/-- What reading each identifier field keeps, settling keeps. -/
theorem settle_induction {P : Draft → Prop} (h : P d)
    (step : ∀ d, ∀ f ∈ [Field.id, .host, .parent], P d → P (d.settleField f).1) : P d.settle.1 := by
  unfold settle
  split
  · exact h
  · have first := step d .id (by simp) h
    split
    · rename_i d₁ _ same
      rwa [same] at first
    · rename_i d₁ _ same
      rw [same] at first
      have second := step d₁ .host (by simp) first
      split
      · rename_i d₂ _ same
        rwa [same] at second
      · rename_i d₂ _ same
        rw [same] at second
        have third := step d₂ .parent (by simp) second
        split
        · rename_i d₃ _ same
          rwa [same] at third
        · rename_i d₃ _ same
          rwa [same] at third

/-- Settling does not touch what became of a draft before. -/
theorem settle_keeps : d.settle.1.origin = d.origin ∧ d.settle.1.createdAt = d.createdAt := by
  refine settle_induction (P := fun a => a.origin = d.origin ∧ a.createdAt = d.createdAt) ⟨rfl, rfl⟩
    fun a f member keeps => ?_
  rcases settleField_cases (d := a) (f := f) with ⟨_, same⟩ | ⟨u, _, same⟩
  · rwa [same]
  · rw [same]
    simp only [List.mem_cons, List.not_mem_nil, or_false] at member
    rcases member with rfl | rfl | rfl <;> exact keeps

/-- The entry that a draft settles to, if it does. -/
def settled? (d : Draft) : Option Entry := d.settle.2.toOption

def id? (d : Draft) : Option Uuid := d.settled?.map (·.id)

/-- The chain that a draft names, if its tag is a value to the tables. -/
def chain? (d : Draft) : Option ChainName :=
  d.settled?.bind fun e => (chainNamed e.host e.tag).toOption.join

theorem settled?_of_settle (settled : d.settle = (d', .ok e)) : d.settled? = some e := by
  rw [settled?, settled]
  rfl

theorem chain?_of_named {chain : Option ChainName} (entry : d.settled? = some e)
    (named : chainNamed e.host e.tag = .ok chain) : d.chain? = chain := by
  rw [chain?, entry, Option.bind_some, named]
  rfl

/-- The draft is one that was stored under an identifier, and has not been changed. -/
structure WasStored (d : Draft) (id : Uuid) : Prop where
  id : d.id = .uuid id
  origin : d.origin ≠ .lost

/-- Settling leaves a stored draft as it is in this. -/
theorem WasStored.settle {id : Uuid} (stored : d.WasStored id) : d.settle.1.WasStored id := by
  refine settle_induction (P := fun d => d.WasStored id) stored fun d f member stored => ?_
  rcases settleField_cases (d := d) (f := f) with ⟨_, same⟩ | ⟨u, read, same⟩
  · rwa [same]
  · rw [same]
    simp only [List.mem_cons, List.not_mem_nil, or_false] at member
    rcases member with rfl | rfl | rfl
    · rw [get, stored.id] at read
      obtain rfl : id = u := Except.ok.inj read
      exact ⟨rfl, stored.origin⟩
    · exact ⟨stored.id, stored.origin⟩
    · exact ⟨stored.id, stored.origin⟩

/-! ## The look-ups -/

/-- All that the look-ups leave in a draft. -/
theorem prepare_draft (d : Draft) (db : Database) (now : Time.Instant) :
    (d.prepare db now).1 = d ∨ ∃ idx, (d.prepare db now).1 = { d.settle.1 with idx := idx } := by
  unfold prepare
  split
  · exact .inl rfl
  · right
    rcases d.settle with ⟨d', invalid | e⟩
    · exact ⟨d'.idx, rfl⟩
    · simp only
      split
      · exact ⟨d'.idx, rfl⟩
      · split
        · exact ⟨d'.idx, rfl⟩
        · rename_i plan _
          cases plan with
          | start chain => exact ⟨.int 0, rfl⟩
          | extend c place => exact ⟨d'.idx, rfl⟩

theorem prepare_origin (d : Draft) (db : Database) (now : Time.Instant) :
    (d.prepare db now).1.origin = d.origin := by
  rcases d.prepare_draft db now with same | ⟨idx, same⟩
  · rw [same]
  · rw [same]
    exact settle_keeps.1

theorem prepare_of_invalid (now : Time.Instant) (origin : d.origin ≠ .lost)
    (h : d.settle = (d', .error invalid)) :
    d.prepare db now = (d', [], .error (.draft invalid)) := by
  simp [prepare, origin, h]

theorem prepare_of_refused (now : Time.Instant) (origin : d.origin ≠ .lost) (found : db.store = .ok s)
    (h : d.settle = (d', .ok e)) (refused : s.plan e = .error err) :
    d.prepare db now = (d', err.log e, .error err) := by
  simp [prepare, origin, h, found, refused]

theorem prepare_of_planned (now : Time.Instant) (origin : d.origin ≠ .lost) (found : db.store = .ok s)
    (h : d.settle = (d', .ok e)) (planned : s.plan e = .ok p) :
    ∃ idx log, d.prepare db now = ({ d' with idx := idx }, log, .ok ⟨e, p, now⟩) := by
  simp only [prepare, origin, h, found, planned, if_false]
  cases p with
  | start chain => exact ⟨_, _, rfl⟩
  | extend c idx => exact ⟨d'.idx, _, rfl⟩

/-- What the first half of an append can come to. -/
theorem prepare_cases (now : Time.Instant) (origin : d.origin ≠ .lost) (found : db.store = .ok s) :
    (∃ d' invalid, d.settle = (d', .error invalid) ∧
        d.prepare db now = (d', [], .error (.draft invalid))) ∨
      (∃ d' e err, d.settle = (d', .ok e) ∧ s.plan e = .error err ∧
        d.prepare db now = (d', err.log e, .error err)) ∨
      ∃ d' e p idx log, d.settle = (d', .ok e) ∧ s.plan e = .ok p ∧
        d.prepare db now = ({ d' with idx := idx }, log, .ok ⟨e, p, now⟩) := by
  rcases settled : d.settle with ⟨d', invalid | e⟩
  · exact .inl ⟨d', invalid, rfl, prepare_of_invalid now origin settled⟩
  · cases plan : s.plan e with
    | error err =>
        have refused := prepare_of_refused now origin found settled plan
        exact .inr (.inl ⟨d', e, err, rfl, plan, refused⟩)
    | ok p =>
        obtain ⟨idx, log, same⟩ := prepare_of_planned now origin found settled plan
        exact .inr (.inr ⟨d', e, p, idx, log, rfl, plan, same⟩)

end Draft

/-! ## The writes -/

/-- How the writes of an append fail when its record cannot be handed over: not before the tip
has been written and the position is known. -/
def Store.barred (s : Store) (p : Pending) : AppendError :=
  match s.writeTip p.entry p.planned p.plan with
  | .error err => err
  | .ok _ =>
      match p.plan.idx? with
      | .error cause => .operand cause
      | .ok _ => .ofParameter .wrongType

namespace Draft

variable {d : Draft} {db : Database} {s s' : Store} {e : Entry} {p : Plan} {c : ChainName}
  {err : AppendError} {pending : Pending} {now : Time.Instant} {idx : Cell}

/-- The writes of a new draft's append.  A time of storing that somebody has assigned cannot be
handed over. -/
def commit (d : Draft) (s : Store) (p : Pending) (now : Time.Instant) : Except AppendError Store :=
  match d.createdAt with
  | .assigned _ => .error (s.barred p)
  | .pending | .stored _ => s.commit p.entry p.plan p.planned now

theorem commit_eq_ok (h : d.commit s pending now = .ok s') :
    s.commit pending.entry pending.plan pending.planned now = .ok s' := by
  unfold commit at h
  split at h
  · cases h
  · exact h
  · exact h

theorem commit_of_dated (dated : ∀ v, d.createdAt ≠ .assigned v) :
    d.commit s pending now = s.commit pending.entry pending.plan pending.planned now := by
  unfold commit
  split
  · rename_i v assigned
    exact absurd assigned (dated v)
  · rfl
  · rfl

theorem commit_of_tip_refused
    (refused : s.writeTip pending.entry pending.planned pending.plan = .error err) :
    d.commit s pending now = .error err := by
  unfold commit Store.barred
  rw [refused, Store.commit_of_tip_refused refused]
  cases d.createdAt <;> rfl

theorem write_of_assigned {v : Value} (new : d.origin = .new) (dated : d.createdAt = .assigned v) :
    d.write s e p idx now = (d, .error (.ofParameter .wrongType)) := by
  simp only [write, new, dated]

theorem write_of_error (new : d.origin = .new) (dated : ∀ v, d.createdAt ≠ .assigned v) (chain : p.chain? = some c)
    (refused : s.writeRecord e c idx now = .error err) :
    d.write s e p idx now = (d, .error err) := by
  cases created : d.createdAt with
  | assigned v => exact absurd created (dated v)
  | pending | stored => simp only [write, new, created, chain, refused]

theorem write_of_ok (new : d.origin = .new) (dated : ∀ v, d.createdAt ≠ .assigned v)
    (chain : p.chain? = some c) (written : s.writeRecord e c idx now = .ok s') :
    d.write s e p idx now = ({ d with createdAt := .stored now, origin := .stored e idx }, .ok s') := by
  cases created : d.createdAt with
  | assigned v => exact absurd created (dated v)
  | pending | stored => simp only [write, new, created, chain, written]

theorem complete_of_ok (new : d.origin = .new) (found : db.store = .ok s)
    (h : d.commit s pending now = .ok s') :
    ∃ idx, pending.plan.idx? = .ok idx ∧
      d.complete pending db now =
        (db.withStore s', { d with
            idx := idx.value, createdAt := .stored now, origin := .stored pending.entry idx },
          [.appended pending.entry.id pending.entry.host pending.entry.tag idx], .ok ()) := by
  unfold commit at h
  split at h
  · cases h
  all_goals
    rename_i dated
    unfold Store.commit at h
    split at h
    · cases h
    · rename_i t written
      split at h
      · cases h
      · cases h
      · rename_i c idx chain next
        exact ⟨idx, next, by simp [complete, found, written, next, write, new, dated, chain, h]⟩

/-- A draft whose record could not be handed over has been given its position before. -/
theorem complete_of_error (new : d.origin = .new) (found : db.store = .ok s)
    (h : d.commit s pending now = .error err) :
    ∃ idx, d.complete pending db now =
        (db, { d with idx := idx }, err.log pending.entry, .error err) ∧
      ∀ cause, err = .ofParameter cause → ∃ i, pending.plan.idx? = .ok i ∧ idx = i.value := by
  have refused {t : Plan} {failure : AppendError} {cause : ParameterError}
      (written : s.writeTip pending.entry pending.planned t = .error failure)
      (bound : failure = .ofParameter cause) : False := by
    obtain ⟨tip, byKey, same⟩ := Store.writeTip_error written
    rw [same] at bound
    cases bound
  unfold commit at h
  split at h
  · rename_i v dated
    obtain rfl := Except.error.inj h
    unfold Store.barred
    split
    · rename_i failure written
      exact ⟨d.idx, by simp [complete, found, written], fun _ bound => (refused written bound).elim⟩
    · rename_i t written
      split
      · rename_i cause next
        exact ⟨d.idx, by simp [complete, found, written, next, AppendError.log],
          fun _ bound => by cases bound⟩
      · rename_i idx next
        refine ⟨idx.value, ?_, fun _ _ => ⟨idx, next, rfl⟩⟩
        simp [complete, found, written, next, write, new, dated, AppendError.log,
          AppendError.ofParameter]
  all_goals
    rename_i dated
    unfold Store.commit at h
    split at h
    · rename_i failure written
      obtain rfl := Except.error.inj h
      exact ⟨d.idx, by simp [complete, found, written], fun _ bound => (refused written bound).elim⟩
    · rename_i t written
      split at h
      · rename_i cause next
        obtain rfl := Except.error.inj h
        exact ⟨d.idx, by simp [complete, found, written, next, AppendError.log],
          fun _ bound => by cases bound⟩
      · rename_i idx chain next
        obtain rfl := Except.error.inj h
        refine ⟨idx.value, ?_, fun _ _ => ⟨idx, next, rfl⟩⟩
        simp [complete, found, written, next, write, new, dated, chain]
      · rename_i c idx chain next
        refine ⟨idx.value, ?_, fun _ _ => ⟨idx, next, rfl⟩⟩
        simp [complete, found, written, next, write, new, dated, chain, h]

/-! ## Whole appends -/

variable {d' : Draft} {invalid : DraftError}

theorem append_of_invalid (now : Time.Instant) (origin : d.origin ≠ .lost)
    (h : d.settle = (d', .error invalid)) :
    d.append db now = (db, d', [], .error (.draft invalid)) := by
  simp [append, prepare_of_invalid now origin h]

theorem append_of_refused (now : Time.Instant) (origin : d.origin ≠ .lost) (found : db.store = .ok s)
    (h : d.settle = (d', .ok e)) (refused : s.plan e = .error err) :
    d.append db now = (db, d', err.log e, .error err) := by
  simp [append, prepare_of_refused now origin found h refused]

theorem append_of_failed (new : d.origin = .new) (found : db.store = .ok s)
    (h : d.settle = (d', .ok e)) (planned : s.plan e = .ok p)
    (failed : d'.commit s ⟨e, p, now⟩ now = .error err) :
    ∃ idx log, d.append db now = (db, { d' with idx := idx }, log, .error err) := by
  obtain ⟨idx, log, looked⟩ := prepare_of_planned now (by simp [new]) found h planned
  have kept := settle_keeps.1.trans new
  rw [h] at kept
  obtain ⟨idx', made, -⟩ := complete_of_error (d := { d' with idx := idx }) kept found failed
  exact ⟨idx', log ++ err.log e, by simp [append, looked, made]⟩

theorem append_of_made (new : d.origin = .new) (found : db.store = .ok s)
    (h : d.settle = (d', .ok e)) (planned : s.plan e = .ok p)
    (made : d'.commit s ⟨e, p, now⟩ now = .ok s') :
    ∃ idx log, p.idx? = .ok idx ∧ d.append db now = (db.withStore s',
      { d' with idx := idx.value, createdAt := .stored now, origin := .stored e idx }, log, .ok ()) := by
  obtain ⟨given, log, looked⟩ := prepare_of_planned now (by simp [new]) found h planned
  have kept := settle_keeps.1.trans new
  rw [h] at kept
  obtain ⟨idx, next, written⟩ := complete_of_ok (d := { d' with idx := given }) kept found made
  exact ⟨idx, log ++ [.appended e.id e.host e.tag idx], next, by simp [append, looked, written]⟩

end Draft

end ChainLog
