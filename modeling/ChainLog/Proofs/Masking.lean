/-
# Tables under a mask

A mask changes the payloads and the dates of the rows and nothing else (`Mask.store`).  An append
asks for neither: its look-ups decide the same on masked tables (`Mask.plan_masked`), and its writes leave
masked what they leave on the tables themselves (`Mask.commit_masked`), or fail in the same way.
-/
import ChainLog.Proofs.DraftAppend

namespace ChainLog

set_option autoImplicit false

structure Mask where
  payload : List UInt8 → List UInt8
  date : Time.Instant → Time.Instant

variable {s : Store} {e : Entry} {p : Plan} {c : ChainName} {r : Record} {t : Tip}
  {planned now : Time.Instant} {v idx : Cell} {id parent : Uuid} {d : Draft}

namespace Mask

variable (m : Mask)

def record (r : Record) : Record :=
  { r with payload := m.payload r.payload, createdAt := m.date r.createdAt }

def tip (t : Tip) : Tip := { t with updatedAt := m.date t.updatedAt }

def store (s : Store) : Store := ⟨s.records.map m.record, s.tips.map m.tip⟩

def entry (e : Entry) : Entry := { e with payload := m.payload e.payload }

/-- An append that is under way, to be finished on masked tables. -/
def pending (p : Pending) : Pending := ⟨m.entry p.entry, p.plan, m.date p.planned⟩

theorem toRecord_masked :
    (m.entry e).toRecord c v idx (m.date now) = m.record (e.toRecord c v idx now) := rfl

/-! ## Look-ups -/

theorem record?_masked : (m.store s).record? id = (s.record? id).map m.record := by
  simp only [Store.record?, store, List.find?_map]
  rfl

theorem tip?_masked : (m.store s).tip? c = (s.tip? c).map m.tip := by
  simp only [Store.tip?, store, List.find?_map]
  rfl

theorem planStart_masked : (m.store s).planStart (m.entry e) = s.planStart e := by
  have named : chainNamed (m.entry e).host (m.entry e).tag = chainNamed e.host e.tag := rfl
  unfold Store.planStart
  rw [named]
  cases chainNamed e.host e.tag with
  | error cause => rfl
  | ok chain =>
      cases chain with
      | none => rfl
      | some c =>
          simp only [tip?_masked]
          cases s.tip? c <;> rfl

theorem planExtension_masked : (m.store s).planExtension (m.entry e) = s.planExtension e := by
  have parent : (m.store s).record? (m.entry e).parent = (s.record? e.parent).map m.record :=
    m.record?_masked
  unfold Store.planExtension
  rw [parent]
  cases s.record? e.parent <;> rfl

/-- The look-ups of an append ask for neither payloads nor dates. -/
theorem plan_masked : (m.store s).plan (m.entry e) = s.plan e := by
  have taken : (m.store s).record? (m.entry e).id = (s.record? e.id).map m.record :=
    m.record?_masked
  unfold Store.plan
  rw [planStart_masked, planExtension_masked, taken, Option.isSome_map]
  rfl

theorem otherOwner?_masked : (m.store s).otherOwner? (m.entry e) p = s.otherOwner? e p := by
  cases p with
  | start chain => rfl
  | extend c idx =>
      simp only [Store.otherOwner?, tip?_masked, Option.map_map]
      rfl

/-! ## Writes -/

theorem movedTip_masked :
    Store.movedTip c parent id (m.date now) (m.tip t) =
      m.tip (Store.movedTip c parent id now t) := by
  unfold Store.movedTip
  by_cases tip : t.chain = c ∧ t.tipId = parent
  · rw [if_pos tip, if_pos (show (m.tip t).chain = c ∧ (m.tip t).tipId = parent from tip)]
    rfl
  · rw [if_neg tip, if_neg (show ¬ ((m.tip t).chain = c ∧ (m.tip t).tipId = parent) from tip)]

theorem addTip?_masked : (m.store s).addTip? (m.tip t) = (s.addTip? t).map m.store := by
  have taken : (m.store s).tips.any (·.chain = (m.tip t).chain) =
      s.tips.any (·.chain = t.chain) := by
    simp only [store, List.any_map]
    rfl
  unfold Store.addTip?
  rw [taken]
  split
  · rfl
  · simp [store]

theorem moveTip?_masked :
    (m.store s).moveTip? c parent id (m.date now) = (s.moveTip? c parent id now).map m.store := by
  have found : (m.store s).tips.any (fun t => t.chain = c ∧ t.tipId = parent) =
      s.tips.any (fun t => t.chain = c ∧ t.tipId = parent) := by
    simp only [store, List.any_map]
    rfl
  have moved : (m.store s).tips.map (Store.movedTip c parent id (m.date now)) =
      (s.tips.map (Store.movedTip c parent id now)).map m.tip := by
    simp only [store, List.map_map]
    exact List.map_congr_left fun t _ => m.movedTip_masked
  unfold Store.moveTip?
  rw [found]
  split
  · exact congrArg (fun tips => some (Store.mk (m.store s).records tips)) moved
  · rfl

theorem addRecord?_masked : (m.store s).addRecord? (m.record r) = (s.addRecord? r).map m.store := by
  have clash : (m.store s).records.any (fun q => Store.Clash q (m.record r)) =
      s.records.any (fun q => Store.Clash q r) := by
    simp only [store, List.any_map]
    rfl
  unfold Store.addRecord?
  rw [clash]
  split
  · rfl
  · simp [store]

theorem writeTip_masked :
    (m.store s).writeTip (m.entry e) (m.date now) p = (s.writeTip e now p).map m.store := by
  cases p with
  | start chain =>
      cases chain with
      | none => rfl
      | some c =>
          have added : (m.store s).addTip? ⟨c, .int e.userId, e.id, .int 1, m.date now⟩ =
              (s.addTip? ⟨c, .int e.userId, e.id, .int 1, now⟩).map m.store :=
            m.addTip?_masked (t := ⟨c, .int e.userId, e.id, .int 1, now⟩)
          simp only [Store.writeTip, entry, added]
          cases s.addTip? ⟨c, .int e.userId, e.id, .int 1, now⟩ <;> rfl
  | extend c parentIdx =>
      have tipId : ((m.store s).tip? c).map (·.tipId) = (s.tip? c).map (·.tipId) := by
        rw [tip?_masked, Option.map_map]
        rfl
      simp only [Store.writeTip, entry, moveTip?_masked, tipId]
      cases s.moveTip? c e.parent e.id now <;> rfl

theorem writeRecord_masked :
    (m.store s).writeRecord (m.entry e) c idx (m.date now) =
      (s.writeRecord e c idx now).map m.store := by
  have version : (m.entry e).version = e.version := rfl
  unfold Store.writeRecord
  rw [version]
  cases e.version.inTexts with
  | error cause => rfl
  | ok version =>
      cases idx.parameter with
      | error cause => rfl
      | ok i =>
          cases version with
          | none => rfl
          | some v =>
              simp only [toRecord_masked, addRecord?_masked]
              cases s.addRecord? (e.toRecord c v i.inNumbers now) <;> rfl

/-- The writes of an append ask for neither payloads nor dates. -/
theorem commit_masked :
    (m.store s).commit (m.entry e) p (m.date planned) (m.date now) =
      (s.commit e p planned now).map m.store := by
  unfold Store.commit
  rw [writeTip_masked]
  cases s.writeTip e planned p with
  | error failure => rfl
  | ok t =>
      simp only [Except.map]
      cases p.idx? with
      | error cause => rfl
      | ok i =>
          cases p.chain? with
          | none => rfl
          | some c => exact m.writeRecord_masked

theorem barred_masked {p : Pending} : (m.store s).barred (m.pending p) = s.barred p := by
  have written : (m.store s).writeTip (m.pending p).entry (m.pending p).planned (m.pending p).plan =
      (s.writeTip p.entry p.planned p.plan).map m.store := m.writeTip_masked
  unfold Store.barred
  rw [written]
  cases s.writeTip p.entry p.planned p.plan <;> rfl

theorem draftCommit_masked {p : Pending} :
    d.commit (m.store s) (m.pending p) (m.date now) = (d.commit s p now).map m.store := by
  unfold Draft.commit
  cases d.createdAt with
  | assigned value => exact congrArg Except.error m.barred_masked
  | pending => exact m.commit_masked
  | stored moment => exact m.commit_masked

end Mask

end ChainLog
