/-
# Sealed payloads

A sealed record has an empty payload in the place of its own, and a sealed draft empty bytes in the
place of whatever bytes it carries or was stored with; all else stays.  Nothing that an append does
depends on more than is left: the append of a sealed draft to sealed tables comes to the sealed
tables, the sealed draft, the same log and the same failure (`Draft.append_sealed`).

There is one question that an append asks of a payload: whether a draft that was stored before still
has the bytes that it was stored with.  The seal covers the answer, so a stored draft is held to it
(`Draft.KeepsPayload`).
-/
import ChainLog.Proofs.Masking
import ChainLog.Proofs.Overwriting

namespace ChainLog

set_option autoImplicit false

/-- Bytes are all the same once they are sealed, whatever carries them. -/
def Value.sealed : Value → Value
  | .bytes _ _ => .bytes .bytes []
  | v => v

def Entry.sealed (e : Entry) : Entry := { e with payload := [] }

def Origin.sealed : Origin → Origin
  | .stored e idx => .stored e.sealed idx
  | o => o

def Draft.sealed (d : Draft) : Draft :=
  { d with payload := d.payload.sealed, origin := d.origin.sealed }

/-- If the draft was stored before, the bytes that it carries are those that it was stored with. -/
def Draft.KeepsPayload (d : Draft) : Prop :=
  ∀ e idx carrier content, d.origin = .stored e idx → d.payload = .bytes carrier content →
    content = e.payload

def Pending.sealed (p : Pending) : Pending := { p with entry := p.entry.sealed }

def Record.sealed (r : Record) : Record := { r with payload := [] }

/-- The tables without the payloads. -/
def Store.sealed (s : Store) : Store := ⟨s.records.map Record.sealed, s.tips⟩

def Database.sealed (db : Database) : Database := { db with tables := db.tables.map Store.sealed }

variable {s : Store} {d : Draft} {e : Entry} {p : Plan} {c : ChainName} {db : Database} {f : Field}
  {now planned : Time.Instant} {idx : Cell} {id : Uuid} {pending : Pending} {v : Value} {r : Record}
  {changes : List (Field × Value)} {before : Entry} {place : Cell}

/-! ## Tables -/

/-- The mask that leaves out the payloads. -/
def Mask.sealing : Mask := ⟨fun _ => [], fun date => date⟩

theorem Mask.sealing_store : sealing.store = Store.sealed := by
  funext s
  have tips : s.tips.map sealing.tip = s.tips := List.map_id s.tips
  rw [store, tips]
  rfl

namespace Store

theorem record?_sealed : s.sealed.record? id = (s.record? id).map Record.sealed := by
  rw [← Mask.sealing_store]
  exact Mask.sealing.record?_masked

theorem tip?_sealed : s.sealed.tip? c = s.tip? c := rfl

theorem tipRecord?_sealed : s.sealed.tipRecord? c = (s.tipRecord? c).map Record.sealed := by
  unfold tipRecord?
  rw [tip?_sealed]
  cases s.tip? c with
  | none => rfl
  | some t => exact record?_sealed

theorem head?_sealed : s.sealed.head? c = (s.head? c).map Record.sealed := by
  simp only [head?, sealed, List.find?_map]
  rfl

theorem plan_sealed : s.sealed.plan e.sealed = s.plan e := by
  rw [← Mask.sealing_store]
  exact Mask.sealing.plan_masked

theorem otherOwner?_sealed : s.sealed.otherOwner? e.sealed p = s.otherOwner? e p := by
  rw [← Mask.sealing_store]
  exact Mask.sealing.otherOwner?_masked

theorem writeTip_sealed :
    s.sealed.writeTip e.sealed now p = (s.writeTip e now p).map Store.sealed := by
  rw [← Mask.sealing_store]
  exact Mask.sealing.writeTip_masked

theorem writeRecord_sealed :
    s.sealed.writeRecord e.sealed c idx now = (s.writeRecord e c idx now).map Store.sealed := by
  rw [← Mask.sealing_store]
  exact Mask.sealing.writeRecord_masked

theorem replaceRecord?_sealed :
    s.sealed.replaceRecord? id r.sealed = (s.replaceRecord? id r).map Store.sealed := by
  have clash : (s.sealed.withoutRecord id).records.any (fun q => Clash q r.sealed) =
      (s.withoutRecord id).records.any (fun q => Clash q r) := by
    simp only [withoutRecord, sealed, List.filter_map, List.any_map]
    rfl
  have replaced : s.sealed.records.map (fun q => if q.id = id then r.sealed else q) =
      (s.records.map fun q => if q.id = id then r else q).map Record.sealed := by
    simp only [sealed, List.map_map]
    refine List.map_congr_left fun q _ => ?_
    by_cases same : q.id = id
    · simp [Record.sealed, same]
    · simp [Record.sealed, same]
  unfold replaceRecord?
  rw [clash]
  split
  · rfl
  · exact congrArg (fun records => some (Store.mk records s.tips)) replaced

end Store

/-- Putting a value into a column of a sealed record, unless the value is bytes for the payload. -/
theorem Field.bind_sealed {part : Record → Record} (other : ∀ carrier content,
      (f, v) ≠ (.payload, .bytes carrier content)) (binds : f.bind v = .ok (some part)) (r : Record) :
    part r.sealed = (part r).sealed := by
  have of_parameter {α : Type} {value : Except ParameterError (Option α)} {put : α → Record → Record}
      (binds : (value.map fun given => given.map put) = .ok (some part))
      (commutes : ∀ a, put a r.sealed = (put a r).sealed) : part r.sealed = (part r).sealed := by
    cases value with
    | error cause => cases binds
    | ok given =>
        obtain ⟨a, -, rfl⟩ := Option.map_eq_some_iff.1 (Except.ok.inj binds)
        exact commutes a
  cases f with
  | payload =>
      cases v with
      | bytes carrier content => exact absurd rfl (other carrier content)
      | _ => cases binds
  | createdAt => cases binds
  | _ => exact of_parameter binds fun _ => rfl

theorem Store.overwriteRecord_sealed
    (other : ∀ carrier content, (Field.payload, Value.bytes carrier content) ∉ changes) :
    s.sealed.overwriteRecord id changes = (s.overwriteRecord id changes).map Store.sealed := by
  unfold overwriteRecord
  rw [record?_sealed]
  cases made : update? Field.all Field.takes Field.bind changes with
  | error cause => rfl
  | ok update =>
      cases update with
      | none => cases s.record? id <;> rfl
      | some update =>
          cases s.record? id with
          | none => rfl
          | some r =>
              have updated : update r.sealed = (update r).sealed := by
                refine update?_induction (R := fun a b => a = b.sealed) made rfl ?_
                rintro ⟨f, v⟩ member part binds _ b rfl
                exact Field.bind_sealed (fun carrier content same => other carrier content (same ▸ member))
                  binds b
              simp only [Option.map_some, updated, replaceRecord?_sealed]
              cases s.replaceRecord? id (update r) <;> rfl

theorem Database.store_sealed : db.sealed.store = db.store.map Store.sealed := by
  unfold Database.store Database.sealed
  cases db.opened with
  | false => rfl
  | true => cases db.tables <;> rfl

/-! ## Drafts -/

namespace Draft

theorem missing_sealed : d.sealed.missing = d.missing := by
  unfold missing
  congr 1
  funext f
  cases f with
  | payload =>
      show d.payload.sealed.isNone = d.payload.isNone
      cases d.payload <;> rfl
  | _ => rfl

theorem checkPayload_sealed : checkPayload v.sealed = (checkPayload v).map fun _ => [] := by
  cases v <;> rfl

/-- The check of a draft asks for the type of its payload only. -/
theorem check_sealed : d.sealed.check = d.check.map fun checked => ([], checked.2) := by
  unfold check
  rw [missing_sealed]
  split
  · have payload : checkPayload d.sealed.payload = (checkPayload d.payload).map fun _ => [] :=
      checkPayload_sealed
    have timestamp : d.sealed.timestamp = d.timestamp := rfl
    have userId : d.sealed.userId = d.userId := rfl
    rw [payload, timestamp, userId]
    cases checkPayload d.payload with
    | error invalid => rfl
    | ok content =>
        cases checkWord .timestamp d.timestamp with
        | error invalid => rfl
        | ok word => cases checkWord .userId d.userId <;> rfl
  · rfl

theorem settleField_sealed (other : f ≠ .payload) :
    d.sealed.settleField f = ((d.settleField f).1.sealed, (d.settleField f).2) := by
  have read : d.sealed.get f = d.get f := by
    cases f with
    | payload => exact absurd rfl other
    | _ => rfl
  unfold settleField
  rw [read]
  cases (d.get f).toUuid with
  | error cause => rfl
  | ok u =>
      cases f with
      | payload => exact absurd rfl other
      | _ => rfl

theorem settle_sealed : d.sealed.settle = (d.settle.1.sealed, d.settle.2.map Entry.sealed) := by
  unfold settle
  rw [check_sealed]
  cases d.check with
  | error invalid => rfl
  | ok checked =>
      obtain ⟨payload, timestamp, userId⟩ := checked
      have id (d : Draft) := settleField_sealed (d := d) (f := .id) (by simp)
      have host (d : Draft) := settleField_sealed (d := d) (f := .host) (by simp)
      have parent (d : Draft) := settleField_sealed (d := d) (f := .parent) (by simp)
      simp only [Except.map, id]
      rcases d.settleField .id with ⟨d, invalid | id⟩
      · rfl
      simp only [host]
      rcases d.settleField .host with ⟨d, invalid | host⟩
      · rfl
      simp only [parent]
      rcases d.settleField .parent with ⟨d, invalid | parent⟩
      · rfl
      · rfl

/-! ## Appends -/

theorem keepsPayload_of_new (new : d.origin = .new) : d.KeepsPayload := by
  intro e idx carrier content stored
  rw [new] at stored
  cases stored

theorem log_sealed (err : AppendError) : err.log e.sealed = err.log e := by
  cases err <;> rfl

theorem lost_sealed : d.sealed.origin = .lost ↔ d.origin = .lost := by
  show d.origin.sealed = .lost ↔ d.origin = .lost
  cases d.origin <;> simp [Origin.sealed]

theorem prepare_sealed :
    d.sealed.prepare db.sealed now =
      ((d.prepare db now).1.sealed, (d.prepare db now).2.1,
        (d.prepare db now).2.2.map Pending.sealed) := by
  unfold prepare
  by_cases lost : d.origin = .lost
  · rw [if_pos lost, if_pos (lost_sealed.2 lost)]
    rfl
  rw [if_neg lost, if_neg (mt lost_sealed.1 lost), settle_sealed]
  rcases d.settle with ⟨d, invalid | e⟩
  · rfl
  simp only [Except.map, Database.store_sealed]
  cases db.store with
  | error failure => rfl
  | ok s =>
      simp only [Store.plan_sealed]
      cases s.plan e with
      | error failure =>
          simp only [log_sealed]
      | ok p =>
          simp only [Store.otherOwner?_sealed]
          cases p <;> rfl

/-- A draft that still has the bytes that it was stored with has changed in nothing that the seal
covers. -/
theorem keeps_sealed (spared : d.KeepsPayload) (stored : d.origin = .stored before place) :
    d.sealed.keeps before.sealed place f = d.keeps before place f := by
  cases f with
  | payload =>
      show d.payload.sealed.equalsCell (.blob []) = d.payload.equalsCell (.blob before.payload)
      cases payload : d.payload with
      | bytes carrier content =>
          rw [spared before place carrier content stored payload]
          simp [Value.sealed, Value.equalsCell]
      | _ => rfl
  | _ => rfl

theorem bytes_not_mem_changes (spared : d.KeepsPayload) (stored : d.origin = .stored before place)
    (carrier : Carrier) (content : List UInt8) :
    (Field.payload, Value.bytes carrier content) ∉ d.changes before place := by
  intro member
  obtain ⟨f, changed, same⟩ := List.mem_map.1 member
  obtain ⟨rfl, payload⟩ := Prod.mk.inj same
  have payload : d.payload = .bytes carrier content := payload
  have kept := spared before place carrier content stored payload
  simp [keeps, payload, Value.equalsCell, kept] at changed

theorem changes_sealed (spared : d.KeepsPayload) (stored : d.origin = .stored before place) :
    d.sealed.changes before.sealed place = d.changes before place := by
  have sealed_get {f : Field} (member : (f, d.get f) ∈ d.changes before place) :
      d.sealed.get f = d.get f := by
    cases f with
    | payload =>
        show d.payload.sealed = d.payload
        cases payload : d.payload with
        | bytes carrier content =>
            simp only [get, payload] at member
            exact absurd member (bytes_not_mem_changes spared stored carrier content)
        | _ => rfl
    | _ => rfl
  unfold changes
  simp only [keeps_sealed spared stored]
  refine List.map_congr_left fun f member => ?_
  rw [sealed_get (List.mem_map.2 ⟨f, member, rfl⟩)]

theorem write_sealed (spared : d.KeepsPayload) :
    d.sealed.write s.sealed e.sealed p idx now =
      ((d.write s e p idx now).1.sealed, (d.write s e p idx now).2.map Store.sealed) := by
  have origin : d.sealed.origin = d.origin.sealed := rfl
  have created : d.sealed.createdAt = d.createdAt := rfl
  unfold write
  rw [origin, created]
  cases stored : d.origin with
  | lost => rfl
  | stored before place =>
      have other := bytes_not_mem_changes spared stored
      simp only [Origin.sealed, changes_sealed spared stored]
      generalize d.changes before place = changes at other
      cases changes with
      | nil => rfl
      | cons change changes =>
          have again : s.sealed.overwriteRecord before.sealed.id (change :: changes) =
              (s.overwriteRecord before.id (change :: changes)).map Store.sealed :=
            Store.overwriteRecord_sealed other
          simp only [again]
          cases s.overwriteRecord before.id (change :: changes) <;> rfl
  | new =>
      simp only [Origin.sealed, Store.writeRecord_sealed]
      cases d.createdAt with
      | assigned v => rfl
      | pending | stored =>
          cases p.chain? with
          | none => rfl
          | some c =>
              simp only
              cases s.writeRecord e c idx now <;> rfl

theorem complete_sealed (spared : d.KeepsPayload) :
    d.sealed.complete pending.sealed db.sealed now =
      ((d.complete pending db now).1.sealed, (d.complete pending db now).2.1.sealed,
        (d.complete pending db now).2.2) := by
  unfold complete
  simp only [Database.store_sealed]
  cases db.store with
  | error failure => rfl
  | ok s =>
      have tip : s.sealed.writeTip pending.sealed.entry pending.sealed.planned pending.sealed.plan =
          (s.writeTip pending.entry pending.planned pending.plan).map Store.sealed :=
        Store.writeTip_sealed
      simp only [Except.map, tip]
      cases s.writeTip pending.entry pending.planned pending.plan with
      | error failure =>
          show (_, _, failure.log pending.entry.sealed, _) = _
          rw [log_sealed]
      | ok t =>
          have next : pending.sealed.plan.idx? = pending.plan.idx? := rfl
          simp only [next]
          cases pending.plan.idx? with
          | error cause => rfl
          | ok idx =>
              let placed : Draft := { d with idx := idx.value }
              have written : ({ d.sealed with idx := idx.value } : Draft).write t.sealed
                    pending.sealed.entry pending.sealed.plan idx now =
                  ((placed.write t pending.entry pending.plan idx now).1.sealed,
                    (placed.write t pending.entry pending.plan idx now).2.map Store.sealed) :=
                write_sealed (d := placed) spared
              simp only [written]
              rcases placed.write t pending.entry pending.plan idx now with ⟨d, failure | s⟩
              · show (_, _, failure.log pending.entry.sealed, _) = _
                rw [log_sealed]
              · rfl

/-- The look-ups do not touch the payload. -/
theorem KeepsPayload.prepare (spared : d.KeepsPayload) : (d.prepare db now).1.KeepsPayload := by
  have settled : d.settle.1.KeepsPayload := by
    refine settle_induction spared fun d f member spared => ?_
    rcases settleField_cases (d := d) (f := f) with ⟨_, same⟩ | ⟨u, _, same⟩
    · rwa [same]
    · rw [same]
      simp only [List.mem_cons, List.not_mem_nil, or_false] at member
      rcases member with rfl | rfl | rfl <;> exact spared
  rcases d.prepare_draft db now with same | ⟨idx, same⟩
  · rwa [same]
  · rw [same]
    exact settled

theorem append_sealed (spared : d.KeepsPayload) :
    d.sealed.append db.sealed now =
      ((d.append db now).1.sealed, (d.append db now).2.1.sealed, (d.append db now).2.2) := by
  have prepared : (d.prepare db now).1.KeepsPayload := spared.prepare
  unfold append
  rw [prepare_sealed]
  rcases looked : d.prepare db now with ⟨d', log, failure | pending⟩
  · rfl
  · rw [looked] at prepared
    simp only [Except.map, complete_sealed prepared]

end Draft

end ChainLog
