/-
# The store is append-only

Of any two states of a run the later one extends the earlier one (`Store.Extends`): each record
stays as it is, each chain's records come first in its later ones, and each tip row stays with its
user and a length that is no smaller.  All of this follows from the soundness of both states and
from the records that are only added (`Store.Sound.extends`).

What is handed in to an append is read back in every later state (`Finished.StoredAs`), its tag and
version as a column of texts holds them: a text is held as it is, a number as its text.

The appends are of drafts that were never stored and of stored ones as they are.  A stored draft that
has been changed takes its record's place in the tables (`overwritten_record_is_gone`).
-/
import ChainLog.Proofs.ChainReading
import ChainLog.Proofs.Interleaving
import ChainLog.Session.Run

namespace ChainLog

set_option autoImplicit false

/-- The records of a chain, by their positions. -/
def Store.inOrder (s : Store) (c : ChainName) : List Record :=
  Sorted.sort (fun a b => a.idx.atMost b.idx) (s.ofChain c)

/-- All of the earlier tables is in the later ones. -/
structure Store.Extends (s' s : Store) : Prop where
  records : ∀ r ∈ s.records, r ∈ s'.records
  chains : ∀ c, s.inOrder c <+: s'.inOrder c
  tips : ∀ t ∈ s.tips, ∃ t' ∈ s'.tips,
    t'.chain = t.chain ∧ t'.userId = t.userId ∧ t.length.atMost t'.length = true

/-- The record has what the draft has in its fields; the tag and the version as a column of texts
holds them. -/
structure Draft.StoredAs (d : Draft) (r : Record) : Prop where
  id : d.id.toUuid = .ok r.id
  host : d.host.toUuid = .ok r.chain.host
  parent : d.parent.toUuid = .ok r.parent
  timestamp : d.timestamp = r.timestamp.value
  version : d.version.inTexts = .ok (some r.version)
  tag : d.tag.inTexts = .ok (some r.chain.tag)
  payload : ∃ carrier, d.payload = .bytes carrier r.payload
  userId : d.userId = r.userId.value

/-- The record has what was handed in to the append, which has left in its draft what else the
record has. -/
structure Finished.StoredAs (a : Finished) (r : Record) : Prop where
  proposed : a.proposed.StoredAs r
  draft : ∃ e, a.proposed.settled? = some e ∧ a.draft = { a.proposed with
    id := .uuid r.id, host := .uuid r.chain.host, parent := .uuid r.parent, idx := r.idx.value,
    createdAt := .stored r.createdAt, origin := .stored e r.idx }

/-- Each record has a tag that a column of texts can hold. -/
def Store.Labelled (s : Store) : Prop := ∀ r ∈ s.records, r.chain.tag.inTexts = r.chain.tag

variable {s s' : Store} {c : ChainName} {t : Tip} {r : Record} {d : Draft} {e : Entry} {p : Plan}
  {m n : Nat}

/-! ## Extended tables -/

/-- A tip row's length is no smaller if it counts more records. -/
theorem Cell.counted_atMost (le : m ≤ n) (within : n ≤ 0x8000000000000000) :
    (counted m).atMost (counted n) = true := by
  by_cases room : m < 0x8000000000000000
  · rw [counted_of_lt room, Cell.atMost_congr (same_counted within), atMost_int, decide_eq_true_eq]
    omega
  · obtain rfl : m = n := by omega
    have equal := Cell.same_refl (counted m)
    simp only [Cell.same, beq_iff_eq] at equal
    simp [Cell.atMost, equal]

namespace Store

/-- The records of a sound chain are stored in their order. -/
theorem Sound.inOrder (sound : s.Sound) (c : ChainName) : s.inOrder c = s.ofChain c :=
  Sorted.sort_of_pairwise ((sound.linked c).ascending.strict.imp Cell.atMost_of_below)

/-- A tip row stays, with its user, while records are added. -/
theorem Sound.tip_extended (sound : s.Sound) (later : s'.Sound) (grows : s.Grows s')
    (tip : s.tip? c = some t) :
    ∃ t', s'.tip? c = some t' ∧ t'.userId = t.userId ∧ t.length.atMost t'.length = true := by
  have before := sound.tops c t tip
  obtain ⟨more, split⟩ := grows.ofChain c
  cases tip' : s'.tip? c with
  | none =>
      rw [later.absent c tip'] at split
      exact absurd (List.append_eq_nil_iff.1 split).1 before.nonempty
  | some t' =>
      have after := later.tops c t' tip'
      have bounded := later.bounded c
      refine ⟨t', rfl, ?_, ?_⟩
      · have first := after.userId
        rw [← split, List.head?_append, Option.map_or, before.userId] at first
        exact (Option.some.inj first).symm
      · rw [before.length, after.length]
        refine Cell.counted_atMost ?_ bounded
        rw [← split, List.length_append]
        exact Nat.le_add_right _ _

/-- Sound tables whose records are only added are extended. -/
theorem Sound.extends (sound : s.Sound) (later : s'.Sound) (grows : s.Grows s') : s'.Extends s where
  records _ member := grows.subset member
  chains c := by
    rw [sound.inOrder, later.inOrder]
    exact grows.ofChain c
  tips t member := by
    obtain ⟨t', tip', user, length⟩ := sound.tip_extended later grows
      ((tip?_eq_some_iff sound.keys).2 ⟨member, rfl⟩)
    obtain ⟨member', chain⟩ := (tip?_eq_some_iff later.keys).1 tip'
    exact ⟨t', member', chain, user, length⟩

end Store

/-! ## What is read back -/

/-- The chain that is written to has the entry's host, and its tag as a column of texts holds it. -/
theorem Plan.Fits.labels (fits : p.Fits s e) (chain : p.chain? = some c) (labelled : s.Labelled) :
    c.host = e.host ∧ e.tag.inTexts = .ok (some c.tag) := by
  cases fits with
  | start head named =>
      obtain rfl := chain
      exact chainNamed_eq_some named
  | @extend q child stored host same hashable =>
      obtain rfl := Option.some.inj chain
      have held := labelled q (List.mem_of_find?_eq_some stored)
      exact ⟨host, Value.inTexts_of_equalsCell held same⟩

theorem Store.Labelled.pushed {v : Cell} {planned now : Time.Instant} (labelled : s.Labelled)
    (tag : e.tag.inTexts = .ok (some c.tag)) : (s.pushed e c v planned now).Labelled := by
  intro r member
  rcases List.mem_append.1 member with old | new
  · exact labelled r old
  · obtain rfl := List.mem_singleton.1 new
    exact Value.inTexts_eq_ok tag

/-- What is handed in to an append is stored as the record that it adds. -/
theorem Underway.Ready.storedAs {a : Underway} {v idx : Cell} {now : Time.Instant}
    (ready : a.Ready s) (host : c.host = a.pending.entry.host)
    (tag : a.pending.entry.tag.inTexts = .ok (some c.tag))
    (version : a.pending.entry.version.inTexts = .ok (some v)) :
    Finished.StoredAs ⟨a.proposed, a.stored idx now, .ok ()⟩
      (a.pending.entry.toRecord c v idx now) := by
  obtain ⟨d, given, settled, same⟩ := ready.settled
  obtain ⟨⟨carrier, payload⟩, timestamp, userId⟩ := Draft.check_eq_ok (Draft.check_of_settle settled)
  obtain ⟨⟨id, host', parent⟩, rfl, tagged, versioned⟩ := Draft.settle_eq_ok settled
  refine ⟨⟨id, host ▸ host', parent, timestamp, versioned ▸ version, tagged ▸ tag,
    ⟨carrier, payload⟩, userId⟩, _, ready.settled?, ?_⟩
  simp only [Underway.stored, same, Entry.toRecord, host]

/-- What the appends that were made have stored is there, and tags are texts. -/
structure Recorded (finished : List Finished) (s : Store) : Prop where
  labelled : s.Labelled
  stored : ∀ a ∈ finished, a.outcome = .ok () → ∃ r, s.record? r.id = some r ∧ a.StoredAs r

theorem recorded_empty : Recorded [] Store.empty where
  labelled _ member := by cases member
  stored _ member := by cases member

/-- A move leaves recorded what was recorded, and what it has stored. -/
theorem Scene.Effect.recorded {σ σ' : Scene} {added finished : List Finished} (sound : σ.Sound s)
    (effect : σ.Effect s added σ' s') (recorded : Recorded finished s) :
    Recorded (finished ++ added) s' := by
  have kept : ∀ b ∈ finished, b.outcome = .ok () → ∃ r, s'.record? r.id = some r ∧ b.StoredAs r := by
    intro b inside outcome
    obtain ⟨r, found, same⟩ := recorded.stored b inside outcome
    exact ⟨r, (effect.grows sound).record? found, same⟩
  rcases effect.unmade_or_made sound with ⟨rfl, unmade⟩ | ⟨a, c, v, idx, now, rfl, pushes⟩
  · refine ⟨recorded.labelled, fun b member outcome => ?_⟩
    rcases List.mem_append.1 member with before | last
    · exact kept b before outcome
    · exact absurd outcome (unmade b last)
  · have ready := pushes.ready
    have place := sound.store.position_of_continues ready.fits pushes.chain pushes.continues
    obtain rfl := Except.ok.inj (pushes.position.symm.trans place)
    obtain ⟨host, tag⟩ := ready.fits.labels pushes.chain recorded.labelled
    refine ⟨pushes.tables ▸ recorded.labelled.pushed tag, fun b member outcome => ?_⟩
    rcases List.mem_append.1 member with before | last
    · exact kept b before outcome
    · obtain rfl := List.mem_singleton.1 last
      rw [pushes.tables]
      exact ⟨_, Store.record?_pushed_self pushes.free, ready.storedAs host tag pushes.version⟩

/-- A record that is stored is what a session gets by its identifier, however that is given. -/
theorem Session.Step.get_of_record {st : Session.State} {given : Value}
    (found : st.database.store = .ok s) (stored : s.record? r.id = some r)
    (spells : given.toUuid = .ok r.id) :
    ((Session.Step.get given).run st).2.outcome = .ok (.record r) := by
  simp only [Session.Step.run, Session.State.reading, spells, found, stored, Session.Answer.of,
    Session.Answer.outcome]

theorem Session.Step.get_of_absent {st : Session.State} {given : Value} {id : Uuid}
    (found : st.database.store = .ok s) (absent : s.record? id = none)
    (spells : given.toUuid = .ok id) :
    ((Session.Step.get given).run st).2.outcome = .error (.absent (.record id)) := by
  simp only [Session.Step.run, Session.State.reading, spells, found, absent, Session.Answer.of,
    Session.Answer.outcome]

/-! ## Runs -/

/-- What holds of the tables before a run, and of the appends made until then, holds of the tables
after it. -/
theorem Recorded.mono {finished : List Finished} (recorded : Recorded finished s)
    (grows : s.Grows s') :
    ∀ a ∈ finished, a.outcome = .ok () → ∃ r, s'.record? r.id = some r ∧ a.StoredAs r := by
  intro a member outcome
  obtain ⟨r, found, same⟩ := recorded.stored a member outcome
  exact ⟨r, grows.record? found, same⟩

/-- **Append-only.**  However appends are interleaved, each state extends all earlier ones; and
whoever gets the record of an append that has been made, in whatever later state, gets what was
handed in to it. -/
theorem store_is_append_only (stamp : Option Bool) (before moves : List Move) :
    ∃ s s', ((Scene.opening stamp).run before).database.store = .ok s ∧
      (((Scene.opening stamp).run before).run moves).database.store = .ok s' ∧ s'.Extends s ∧
      ∀ a ∈ ((Scene.opening stamp).run before).finished, a.outcome = .ok () →
        ∃ r, a.StoredAs r ∧ ∀ (st : Session.State) (given : Value),
          st.database = (((Scene.opening stamp).run before).run moves).database →
            given.toUuid = .ok r.id →
              ((Session.Step.get given).run st).2.outcome = .ok (.record r) := by
  obtain ⟨s, sound, recorded⟩ := Scene.run_induction (P := Recorded) (Scene.sound_opening stamp)
    recorded_empty (fun _ _ _ _ _ _ soundT effect recorded => effect.recorded soundT recorded) before
  obtain ⟨s', later, grows⟩ := Scene.run_grows sound moves
  refine ⟨s, s', sound.found, later.found, sound.store.extends later.store grows, ?_⟩
  intro a member outcome
  obtain ⟨r, stored, same⟩ := recorded.mono grows a member outcome
  exact ⟨r, same, fun st given here spells =>
    Session.Step.get_of_record (here ▸ later.found) stored spells⟩

/-- A version that is a number is read back as its text. -/
example : (Value.int 5).inTexts = .ok (some (.text "5")) := rfl

/-- The draft of a stored record is given another identifier and another tag, and is appended once
more: the append succeeds, and the record is not there any more. -/
theorem overwritten_record_is_gone :
    ∃ s s' r, Scene.withRecord.database.store = .ok s ∧
      Scene.withRecordOverwritten.database.store = .ok s' ∧
      Scene.withRecordOverwritten.finished.map (·.outcome.isOk) = [true, true] ∧
      r ∈ s.records ∧ r ∉ s'.records ∧ ¬ s'.Extends s ∧
      ∀ st : Session.State, st.database = Scene.withRecordOverwritten.database →
        ((Session.Step.get (.uuid r.id)).run st).2.outcome = .error (.absent (.record r.id)) := by
  obtain ⟨before, after, made⟩ := Scene.store_overwritten
  let s : Store := ⟨[.numbered 1 "history"], [.numbered 1 "history"]⟩
  let s' : Store := ⟨[.numbered 2 "kv"], [.numbered 1 "history", .numbered 2 "kv"]⟩
  let r : Record := .numbered 1 "history"
  have member : r ∈ s.records := List.mem_singleton_self r
  have gone : r ∉ s'.records := by decide
  refine ⟨s, s', r, before, after, made, member, gone, fun grown => gone (grown.records r member),
    fun st here => ?_⟩
  exact Session.Step.get_of_absent (here ▸ after) rfl rfl

end ChainLog
