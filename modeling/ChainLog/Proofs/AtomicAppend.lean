/-
# Appends leave all or nothing

An append looks at the tables and writes to them later; anything may be done to the database in
between (`Draft.appendAmid`).  If the append fails, wherever it fails, the database is as the
others have left it, also if its tip was written already.  If it succeeds, one record is added and
the tip row of its chain goes with it (`Store.Gains`): all other rows are as the others have left
them (`append_atomic`).  Nothing is assumed of the links and lengths in the tables, only their keys.

The record is added for drafts that were never stored.  The draft of a record that is stored already
adds none when it is appended once more (`append_of_stored`): if the record is gone from the tables,
and nothing has been changed in the draft, only the tip is written (`tip_without_record`).
-/
import ChainLog.Proofs.Interleaving
import ChainLog.Proofs.Overwriting
import ChainLog.Session.Run

namespace ChainLog

set_option autoImplicit false

namespace Draft

/-- A whole append, with anything done to the database between its look-ups and its writes. -/
def appendAmid (d : Draft) (meanwhile : Database → Database) (db : Database)
    (planned now : Time.Instant) : Database × Draft × List LogLine × Except AppendError Unit :=
  match d.prepare db planned with
  | (d, log, .error err) => (db, d, log, .error err)
  | (d, log, .ok p) =>
      let (db, d, log', outcome) := d.complete p (meanwhile db) now
      (db, d, log ++ log', outcome)

/-- The database without the append: what is done meanwhile, unless the look-ups have ended the
append before. -/
def without (d : Draft) (meanwhile : Database → Database) (db : Database) (planned : Time.Instant) :
    Database :=
  match (d.prepare db planned).2.2 with
  | .error _ => db
  | .ok _ => meanwhile db

/-- An append with nothing in between. -/
theorem append_eq_appendAmid (d : Draft) (db : Database) (now : Time.Instant) :
    d.append db now = d.appendAmid (fun db => db) db now now := rfl

end Draft

/-- A session's append that is suspended while other steps run is an append amid these. -/
theorem Session.Step.database_race {st : Session.State} {p : Session.Proposal} {d : Draft}
    (built : p.build = .ok d) (keep : Option String) (inner : List Session.Step) :
    let others := (Session.runAll st inner).1
    ((Session.Step.race p keep inner).run st).1.database =
      (d.appendAmid (fun _ => others.database) st.database st.now others.now).1 := by
  intro others
  have kept (state : Session.State) (d : Draft) : (state.keepDraft d keep).database = state.database := by
    cases keep <;> rfl
  rcases looked : d.prepare st.database st.now with ⟨d', log, err | pending⟩
  · simp only [Session.Step.run, built, looked, Draft.appendAmid, kept]
  · simp only [Session.Step.run, built, looked, Draft.appendAmid, kept, others]

/-! ## One record and its tip row -/

/-- The chain is the one that the entry names, by a tag that is or equals the chain's. -/
def Entry.Names (e : Entry) (c : ChainName) : Prop :=
  c.host = e.host ∧ (chainNamed e.host e.tag = .ok (some c) ∨ e.tag.equalsCell c.tag = true)

/-- All that an append changes in the tables: a record more, and the tip row of its chain. -/
structure Store.Gains (s s' : Store) (e : Entry) (c : ChainName) (planned now : Time.Instant) :
    Prop where
  keys : s'.KeysHold
  record : ∃ version idx, e.version.inTexts = .ok (some version) ∧
    s'.records = s.records ++ [e.toRecord c version idx now]
  others : ∀ t, t.chain ≠ c → (t ∈ s'.tips ↔ t ∈ s.tips)
  /-- The row of a chain that is started. -/
  started : s.tip? c = none → s'.tip? c = some ⟨c, .int e.userId, e.id, .int 1, planned⟩
  /-- The row of a chain that goes on: it keeps its user. -/
  moved : ∀ t, s.tip? c = some t → t.tipId = e.parent ∧ ∃ length,
    s'.tip? c = some { t with tipId := e.id, length := length, updatedAt := planned } ∧
      ∀ n : Int, t.length = .int n → IsWord (n + 1) → length = .int (n + 1)

section

variable {s s' : Store} {e : Entry} {p : Plan} {c : ChainName} {planned now : Time.Instant} {idx : Cell}
  {d d' : Draft} {db db' : Database} {log : List LogLine} {pending : Pending} {err : AppendError}

theorem Plan.Fits.names (fits : p.Fits s e) (chain : p.chain? = some c) : e.Names c := by
  cases fits with
  | start head named =>
      obtain rfl := chain
      exact ⟨(chainNamed_eq_some named).1, .inl named⟩
  | extend child parent host same hashable =>
      obtain rfl := Option.some.inj chain
      exact ⟨host, .inr same⟩

/-- Each of the two writes keeps the keys. -/
theorem Store.KeysHold.writeTip (keys : s.KeysHold) (written : s.writeTip e now p = .ok s') :
    s'.KeysHold := by
  unfold Store.writeTip at written
  split at written
  · cases written
  · split at written
    · rename_i added
      obtain rfl := Except.ok.inj written
      exact keys.addTip? added
    · cases written
  · split at written
    · rename_i moved
      obtain rfl := Except.ok.inj written
      exact keys.moveTip? moved
    · cases written

theorem Store.KeysHold.writeRecord (keys : s.KeysHold)
    (written : s.writeRecord e c idx now = .ok s') : s'.KeysHold := by
  obtain ⟨v, -, -, apart, rfl⟩ := writeRecord_eq_ok_iff.1 written
  exact keys.addRecord? (addRecord?_eq_some_iff.2 ⟨apart, rfl⟩)

theorem Store.KeysHold.commit (keys : s.KeysHold) (made : s.commit e p planned now = .ok s') :
    s'.KeysHold := by
  unfold Store.commit at made
  split at made
  · cases made
  · rename_i with_tip written
    split at made
    · cases made
    · cases made
    · exact (keys.writeTip written).writeRecord made

/-- A chain that is started gains its first record and its tip row. -/
theorem Store.KeysHold.gains_of_start (keys : s.KeysHold)
    (made : s.commit e (.start (some c)) planned now = .ok s') : s.Gains s' e c planned now := by
  have kept := keys.commit made
  obtain ⟨absent, v, version, -, rfl⟩ := commit_start_eq_ok_iff.1 made
  refine ⟨kept, ⟨v, .int 0, version, rfl⟩, fun t other => ?_, fun _ => ?_, fun t found => ?_⟩
  · simp only [List.mem_append, List.mem_singleton]
    refine ⟨fun member => member.resolve_right ?_, .inl⟩
    rintro rfl
    exact other rfl
  · have missing : s.tips.find? (·.chain = c) = none := absent
    rw [Store.tip?, List.find?_append, missing]
    simp
  · rw [absent] at found
    cases found

/-- A chain that goes on gains a record, and its tip row is moved. -/
theorem Store.KeysHold.gains_of_extend (keys : s.KeysHold)
    (made : s.commit e (.extend c idx) planned now = .ok s') : s.Gains s' e c planned now := by
  have kept := keys.commit made
  obtain ⟨⟨t, member, chain, named⟩, i, v, -, -, version, -, rfl⟩ :=
    commit_extend_eq_ok_iff.1 made
  have tip := (tip?_eq_some_iff keys).2 ⟨member, chain⟩
  refine ⟨kept, ⟨v, _, version, rfl⟩, fun u other => ?_, fun absent => ?_, fun u found => ?_⟩
  · -- Only the row of this chain can be another one after the move.
    simp only [List.mem_map]
    constructor
    · rintro ⟨w, before, rfl⟩
      rw [movedTip_chain] at other
      rwa [movedTip_of_other other]
    · exact fun before => ⟨u, before, movedTip_of_other other⟩
  · rw [tip] at absent
    cases absent
  · obtain rfl : t = u := Option.some.inj (tip.symm.trans found)
    refine ⟨named, t.length.increased, ?_, fun n whole word => ?_⟩
    · rw [Store.tip?, Store.tip?_moved, tip]
      simp only [Option.map_some, movedTip, chain, named, and_self, if_true]
    · rw [whole, Cell.increased_int word]

theorem Store.KeysHold.gains (keys : s.KeysHold) (chain : p.chain? = some c)
    (made : s.commit e p planned now = .ok s') : s.Gains s' e c planned now := by
  cases p with
  | start named =>
      obtain rfl := chain
      exact keys.gains_of_start made
  | extend d idx =>
      obtain rfl := Option.some.inj chain
      exact keys.gains_of_extend made

/-- Writes that are made are made to some chain. -/
theorem Store.chain_of_commit (made : s.commit e p planned now = .ok s') : ∃ c, p.chain? = some c := by
  cases p with
  | start chain =>
      cases chain with
      | none => cases made
      | some c => exact ⟨c, rfl⟩
  | extend c idx => exact ⟨c, rfl⟩

/-! ## The two halves -/

namespace Draft

/-- Writes that fail leave the database as they have found it, also if the tip was written. -/
theorem complete_error (failed : d.complete pending db now = (db', d', log, .error err)) :
    db' = db := by
  unfold complete at failed
  simp only at failed
  split at failed
  · exact (Prod.mk.inj failed).1.symm
  · split at failed
    · exact (Prod.mk.inj failed).1.symm
    · split at failed
      · exact (Prod.mk.inj failed).1.symm
      · split at failed
        · exact (Prod.mk.inj failed).1.symm
        · cases failed

/-- Writes of a new draft that succeed are those of its entry. -/
theorem complete_ok (new : d.origin = .new)
    (made : d.complete pending db now = (db', d', log, .ok ())) :
    ∃ s s', db.store = .ok s ∧ db' = db.withStore s' ∧
      s.commit pending.entry pending.plan pending.planned now = .ok s' := by
  cases found : db.store with
  | error err =>
      simp only [complete, found] at made
      cases made
  | ok s =>
      cases committed : d.commit s pending now with
      | error err =>
          obtain ⟨idx, same, -⟩ := complete_of_error new found committed
          rw [same] at made
          cases made
      | ok s' =>
          obtain ⟨idx, -, same⟩ := complete_of_ok new found committed
          rw [same] at made
          exact ⟨s, s', rfl, (Prod.mk.inj made).1.symm, commit_eq_ok committed⟩

/-- What the look-ups of a new draft have found if they let its append go on. -/
theorem prepare_ok (new : d.origin = .new) (looked : d.prepare db planned = (d', log, .ok pending)) :
    d'.origin = .new ∧ d.settle.2 = .ok pending.entry ∧ pending.planned = planned ∧
      ∃ s, db.store = .ok s ∧ pending.plan.Fits s pending.entry := by
  have kept : d.origin ≠ .lost := by simp [new]
  cases found : db.store with
  | error err =>
      simp only [prepare, kept, if_false, found] at looked
      split at looked <;> cases looked
  | ok s =>
      rcases prepare_cases planned kept found with
        ⟨_, _, -, same⟩ | ⟨_, _, _, -, -, same⟩ | ⟨d₁, e, p, idx, log', settled, plan, same⟩
      · rw [same] at looked
        cases looked
      · rw [same] at looked
        cases looked
      · rw [same] at looked
        cases looked
        have origin := settle_keeps.1.trans new
        rw [settled] at origin
        exact ⟨origin, by rw [settled], rfl, s, rfl, (Store.plan_eq_ok_iff.1 plan).2.1⟩

end Draft

end

/-! ## Whole appends -/

/-- **All or nothing.**  Whatever is done to the database between the look-ups of an append and its
writes: if the append fails, the database is what it would be without the append; and if it
succeeds, for a draft that was never stored, the tables gain its record and the tip row that goes
with it, and are otherwise what they would be without the append. -/
theorem append_atomic (d : Draft) (meanwhile : Database → Database) (db : Database)
    (planned now : Time.Instant) :
    (∀ err, (d.appendAmid meanwhile db planned now).2.2.2 = .error err →
        (d.appendAmid meanwhile db planned now).1 = d.without meanwhile db planned) ∧
      (d.origin = .new → (d.appendAmid meanwhile db planned now).2.2.2 = .ok () →
        ∃ s e, (d.without meanwhile db planned).store = .ok s ∧ d.settle.2 = .ok e ∧
          (s.KeysHold → ∃ s' c, e.Names c ∧ s.Gains s' e c planned now ∧
            (d.appendAmid meanwhile db planned now).1 =
              (d.without meanwhile db planned).withStore s')) := by
  unfold Draft.appendAmid Draft.without
  rcases looked : d.prepare db planned with ⟨d', log, err | pending⟩
  · exact ⟨fun _ _ => rfl, fun _ made => by cases made⟩
  rcases written : d'.complete pending (meanwhile db) now with ⟨db', d'', log', outcome⟩
  simp only [written]
  constructor
  · rintro err rfl
    exact Draft.complete_error written
  · rintro new rfl
    obtain ⟨new', settled, rfl, s₀, -, fits⟩ := Draft.prepare_ok new looked
    obtain ⟨s, s', found, same, made⟩ := Draft.complete_ok new' written
    obtain ⟨c, chain⟩ := Store.chain_of_commit made
    exact ⟨s, pending.entry, found, settled, fun keys =>
      ⟨s', c, fits.names chain, keys.gains chain made, same⟩⟩

/-- The position after the tip is taken already: the tip is written, the record is not, and the
database is as before. -/
theorem append_atomic_of_occupied :
    let c : ChainName := ⟨.ofNat 7, .text "history"⟩
    let record (id : Nat) (idx : Int) : Record :=
      ⟨.ofNat id, c, Uuid.nil, .int 0, .text "v0", [], .int 0, .int idx, default⟩
    let s : Store := ⟨[record 1 0, record 9 1], [⟨c, .int 0, .ofNat 1, .int 1, default⟩]⟩
    let db : Database := ⟨true, some s, none⟩
    let d := Draft.numbered 2 1 "history" (.text "v0")
    let after := d.appendAmid (fun db => db) db default default
    (∃ e s', d.settle.2 = .ok e ∧ s.writeTip e default (.extend c (.int 0)) = .ok s') ∧
      after.2.2.2 = .error (.refused (.conflict (.ofNat 2)) true) ∧ after.1 = db := by
  intro c record s db d after
  have fails : after.2.2.2 = .error (.refused (.conflict (.ofNat 2)) true) := rfl
  exact ⟨⟨_, _, rfl, rfl⟩, fails, (append_atomic d (fun db => db) db default default).1 _ fails⟩

/-- Whatever is done to the database in between, an append of a draft that was stored before leaves as
many records as there would be without it, and all but the one that the draft was stored as are the
same. -/
theorem append_of_stored {d : Draft} {before : Entry} {place : Cell}
    (stored : d.origin = .stored before place) (meanwhile : Database → Database) (db : Database)
    (planned now : Time.Instant) (made : (d.appendAmid meanwhile db planned now).2.2.2 = .ok ()) :
    ∃ s s', (d.without meanwhile db planned).store = .ok s ∧
      (d.appendAmid meanwhile db planned now).1 = (d.without meanwhile db planned).withStore s' ∧
        s'.records.length = s.records.length ∧ (s.KeysHold → s'.KeysHold) ∧
          ∀ r ∈ s.records, r.id ≠ before.id → r ∈ s'.records := by
  have origin := (d.prepare_origin db planned).trans stored
  unfold Draft.appendAmid at made ⊢
  unfold Draft.without
  rcases looked : d.prepare db planned with ⟨d', log, err | pending⟩
  · rw [looked] at made
    cases made
  · rw [looked] at made origin
    rcases written : d'.complete pending (meanwhile db) now with ⟨db', d'', log', outcome⟩
    simp only [written] at made ⊢
    subst made
    obtain ⟨s, t, s', found, tip, same, row⟩ := Draft.complete_of_stored origin written
    refine ⟨s, s', found, same, ?_⟩
    rw [← Store.writeTip_records tip]
    rcases row with rfl | ⟨r, overwritten⟩
    · exact ⟨rfl, fun keys => keys.writeTip tip, fun r member _ => member⟩
    · exact ⟨overwritten.length, fun keys => overwritten.keys (keys.writeTip tip),
        fun r member other => overwritten.others member other⟩

/-- A record that is stored, and is then gone with the tables, is appended once more: the append
succeeds and names the record in a tip row, but stores no record. -/
theorem tip_without_record :
    let c : ChainName := ⟨.ofNat 7, .text "history"⟩
    let d := Draft.numbered 1 0 "history" (.text "v0")
    let stored := (d.append .empty default).2.1
    let after := stored.append .empty default
    (∃ e, stored.origin = .stored e (.int 0)) ∧ after.2.2.2.isOk = true ∧
      after.1.store = .ok ⟨[], [⟨c, .int 0, .ofNat 1, .int 1, default⟩]⟩ := by
  intro c d stored after
  exact ⟨⟨_, rfl⟩, rfl, rfl⟩

end ChainLog
