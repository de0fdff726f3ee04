/-
# Interleaved appends

Any number of appends are under way in a scene, each between its look-ups and its writes, and
a move takes one of them further: it makes the look-ups of a new append, or the writes of one
that is under way.  The writes are atomic, and nothing is assumed of the order of the moves.
An append is finished by its writes, or by its look-ups if they refuse it; the finished ones
are kept in that order.

A finished draft may be appended again as it is.  To assign its fields before that (`Scene.revise`)
is a move like any other if it was never stored; if it was, its record is written over, and little of
what holds of moves is left (`Scene.store_overwritten`).

`move_effect` says once what a move can do in a sound scene (`Scene.Effect`), and
`Effect.sound` that the scene stays sound.  Whatever holds of a scene and is kept by every
effect holds after every run (`run_induction`).
-/
import ChainLog.Proofs.DraftAppend
import ChainLog.Proofs.SoundStore

namespace ChainLog

set_option autoImplicit false

/-- A draft that was never stored, with anything in its fields. -/
structure Submission where
  draft : Draft
  isNew : draft.origin = .new

/-- A draft of host 7 with a number as its identifier and its parent. -/
def Draft.numbered (id parent : Nat) (tag : String) (version : Value) : Draft :=
  ⟨.uuid (.ofNat id), .uuid (.ofNat 7), .uuid (.ofNat parent), .int 0, version, .text tag,
    .bytes .bytes [], .int 0, .none, .pending, .new⟩

/-- The record and the tip row that such a draft comes to if it is all that its chain has. -/
def Record.numbered (id : Nat) (tag : String) : Record :=
  ⟨.ofNat id, ⟨.ofNat 7, .text tag⟩, Uuid.nil, .int 0, .text "v0", [], .int 0, .int 0, default⟩

def Tip.numbered (id : Nat) (tag : String) : Tip :=
  ⟨⟨.ofNat 7, .text tag⟩, .int 0, .ofNat id, .int 1, default⟩

/-- An append between its two halves. -/
structure Underway where
  /-- The draft as it was handed in. -/
  proposed : Draft
  draft : Draft
  pending : Pending

/-- The draft of an append whose record has been written. -/
def Underway.stored (a : Underway) (idx : Cell) (now : Time.Instant) : Draft :=
  { a.draft with
    idx := idx.value, createdAt := .stored now, origin := .stored a.pending.entry idx }

/-- An append that has come to its end. -/
structure Finished where
  /-- The draft as it was handed in. -/
  proposed : Draft
  draft : Draft
  outcome : Except AppendError Unit

structure Scene where
  database : Database
  underway : List Underway
  /-- In the order in which they were finished. -/
  finished : List Finished
  log : List LogLine

inductive Move where
  /-- The look-ups of a new append. -/
  | look (submission : Submission) (now : Time.Instant)
  /-- The look-ups of a new append of the draft that a finished one has left, stored or not. -/
  | again (number : Nat) (now : Time.Instant)
  /-- The writes of an append that is under way. -/
  | write (number : Nat) (now : Time.Instant)

namespace Scene

/-- Nobody has appended anything yet; the tables have been made with or without a revision's
stamp. -/
def opening (stamp : Option Bool) : Scene := ⟨⟨true, some Store.empty, stamp⟩, [], [], []⟩

/-- The first half of an append. -/
def look (σ : Scene) (d : Draft) (now : Time.Instant) : Scene :=
  match d.prepare σ.database now with
  | (d', log, .ok pending) =>
      { σ with underway := σ.underway ++ [⟨d, d', pending⟩], log := σ.log ++ log }
  | (d', log, .error err) =>
      { σ with finished := σ.finished ++ [⟨d, d', .error err⟩], log := σ.log ++ log }

/-- The second half of the append of that number. -/
def write (σ : Scene) (number : Nat) (now : Time.Instant) : Scene :=
  match σ.underway[number]? with
  | none => σ
  | some a =>
      let (db, d, log, outcome) := a.draft.complete a.pending σ.database now
      ⟨db, σ.underway.eraseIdx number, σ.finished ++ [⟨a.proposed, d, outcome⟩], σ.log ++ log⟩

def move (σ : Scene) : Move → Scene
  | .look submission now => σ.look submission.draft now
  | .again number now =>
      match σ.finished[number]? with
      | none => σ
      | some a => σ.look a.draft now
  | .write number now => σ.write number now

def run (σ : Scene) (moves : List Move) : Scene := moves.foldl move σ

/-- The look-ups of a new append of the draft that a finished one has left, in which fields have been
assigned since.  It is no move: a stored draft that has been changed is written over its record. -/
def revise (σ : Scene) (number : Nat) (changes : List (Field × Value)) (now : Time.Instant) : Scene :=
  match σ.finished[number]? with
  | none => σ
  | some a => σ.look (a.draft.setAll changes) now

/-- The appends that the moves finish, in the order in which they are finished. -/
def finishedBy (σ : Scene) (moves : List Move) : List Finished :=
  (σ.run moves).finished.drop σ.finished.length

end Scene

/-- Assignments do not store a draft. -/
theorem Draft.setAll_origin (d : Draft) (changes : List (Field × Value)) :
    (d.setAll changes).origin = d.origin := by
  unfold setAll
  induction changes generalizing d with
  | nil => rfl
  | cons change rest ih =>
      rw [List.foldl_cons, ih]
      cases change.1 <;> rfl

/-- A draft that failed to be stored is a new one again, whatever has been assigned in it. -/
theorem Scene.revise_of_new {σ : Scene} {number : Nat} {a : Finished}
    (left : σ.finished[number]? = some a) (isNew : a.draft.origin = .new)
    (changes : List (Field × Value)) (now : Time.Instant) : σ.revise number changes now =
      σ.move (.look ⟨a.draft.setAll changes, (a.draft.setAll_origin changes).trans isNew⟩ now) := by
  simp only [revise, left, move]

/-- One record has been stored. -/
def Scene.withRecord : Scene :=
  (opening none).run [.look ⟨.numbered 1 0 "history" (.text "v0"), rfl⟩ default, .write 0 default]

/-- Its draft has then been given another identifier and another tag, and been appended once more. -/
def Scene.withRecordOverwritten : Scene :=
  (withRecord.revise 0 [(.id, .uuid (.ofNat 2)), (.tag, .text "kv")] default).move (.write 0 default)

/-- The record is that of the other chain then, and both chains have a tip row. -/
theorem Scene.store_overwritten :
    withRecord.database.store = .ok ⟨[.numbered 1 "history"], [.numbered 1 "history"]⟩ ∧
      withRecordOverwritten.database.store =
        .ok ⟨[.numbered 2 "kv"], [.numbered 1 "history", .numbered 2 "kv"]⟩ ∧
      withRecordOverwritten.finished.map (·.outcome.isOk) = [true, true] :=
  ⟨rfl, rfl, rfl⟩

/-- What is known of an append that is under way, whatever has happened since its look-ups. -/
structure Underway.Ready (a : Underway) (s : Store) : Prop where
  isNew : a.draft.origin = .new
  proposed : a.proposed.origin = .new
  settled : ∃ d idx, a.proposed.settle = (d, .ok a.pending.entry) ∧ a.draft = { d with idx := idx }
  fits : a.pending.plan.Fits s a.pending.entry

/-- The draft is new, or it is stored. -/
def Draft.Known (d : Draft) (s : Store) : Prop :=
  d.origin = .new ∨ ∃ id r, d.WasStored id ∧ s.record? id = some r

theorem Underway.Ready.settled? {a : Underway} {s : Store} (ready : a.Ready s) :
    a.proposed.settled? = some a.pending.entry := by
  obtain ⟨d, idx, settled, -⟩ := ready.settled
  exact Draft.settled?_of_settle settled

/-- The look-ups do not date the draft. -/
theorem Underway.Ready.createdAt {a : Underway} {s : Store} (ready : a.Ready s) :
    a.draft.createdAt = a.proposed.createdAt := by
  obtain ⟨d, idx, settled, left⟩ := ready.settled
  have kept := (Draft.settle_keeps (d := a.proposed)).2
  rw [settled] at kept
  rw [left, ← kept]

theorem Draft.Known.not_lost {d : Draft} {s : Store} (known : d.Known s) : d.origin ≠ .lost := by
  rcases known with new | ⟨_, _, stored, _⟩
  · rw [new]
    simp
  · exact stored.origin

theorem Underway.Ready.mono {a : Underway} {s s' : Store} (ready : a.Ready s) (grows : s.Grows s') :
    a.Ready s' :=
  ⟨ready.isNew, ready.proposed, ready.settled, ready.fits.mono grows⟩

theorem Draft.Known.mono {d : Draft} {s s' : Store} (known : d.Known s) (grows : s.Grows s') :
    d.Known s' :=
  known.imp_right fun ⟨id, r, stored, found⟩ => ⟨id, r, stored, grows.record? found⟩

/-- Settling leaves a draft new or stored. -/
theorem Draft.Known.settle {d : Draft} {s : Store} (known : d.Known s) : d.settle.1.Known s :=
  known.imp Draft.settle_keeps.1.trans fun ⟨id, r, stored, found⟩ => ⟨id, r, stored.settle, found⟩

/-- A draft whose identifier is free is new: that of a stored draft is taken. -/
theorem Draft.Known.isNew {d d' : Draft} {s : Store} {e : Entry} (known : d.Known s)
    (settled : d.settle = (d', .ok e)) (free : s.record? e.id = none) : d.origin = .new := by
  rcases known with isNew | ⟨id, r, stored, taken⟩
  · exact isNew
  · have read := (Draft.settle_eq_ok settled).1.1
    rw [stored.id] at read
    obtain rfl : id = e.id := Except.ok.inj read
    rw [taken] at free
    cases free

/-- An append that is under way finds its chain as it left it and pushes its record onto the tables,
with the version `v` and at the position `idx`. -/
structure Underway.Pushes (a : Underway) (s : Store) (c : ChainName) (v idx : Cell)
    (now : Time.Instant) (s' : Store) : Prop where
  ready : a.Ready s
  position : a.pending.plan.idx? = .ok idx
  chain : a.pending.plan.chain? = some c
  continues : s.Continues c a.pending.entry.parent
  free : s.record? a.pending.entry.id = none
  version : a.pending.entry.version.inTexts = .ok (some v)
  tables : s' = s.pushed a.pending.entry c v a.pending.planned now

namespace Scene

structure Sound (σ : Scene) (s : Store) : Prop where
  found : σ.database.store = .ok s
  store : s.Sound
  underway : ∀ a ∈ σ.underway, a.Ready s
  finished : ∀ a ∈ σ.finished, a.draft.Known s

/-- All that a move can do to a scene and its tables, with the appends that it finishes. -/
inductive Effect (σ : Scene) (s : Store) : List Finished → Scene → Store → Prop
  | none : Effect σ s [] σ s
  /-- The look-ups let a new append go on. -/
  | looked (a : Underway) (log : List LogLine) (ready : a.Ready s)
      (planned : s.plan a.pending.entry = .ok a.pending.plan) :
      Effect σ s [] { σ with underway := σ.underway ++ [a], log := log } s
  /-- The draft is not even looked up. -/
  | invalid (d d' : Draft) (err : DraftError) (log : List LogLine) (known : d.Known s)
      (settled : d.settle = (d', .error err)) :
      Effect σ s [⟨d, d', .error (.draft err)⟩]
        { σ with finished := σ.finished ++ [⟨d, d', .error (.draft err)⟩], log := log } s
  /-- The look-ups refuse a new append. -/
  | refused (d d' : Draft) (e : Entry) (err : AppendError) (log : List LogLine) (known : d.Known s)
      (settled : d.settle = (d', .ok e)) (planned : s.plan e = .error err) :
      Effect σ s [⟨d, d', .error err⟩]
        { σ with finished := σ.finished ++ [⟨d, d', .error err⟩], log := log } s
  /-- An append fails at its writes. -/
  | failed (a : Underway) (rest : List Underway) (idx : Value) (err : AppendError)
      (now : Time.Instant) (log : List LogLine) (member : a ∈ σ.underway)
      (others : rest.Sublist σ.underway) (failed : a.draft.commit s a.pending now = .error err)
      (position : ∀ cause, err = .ofParameter cause →
        ∃ i, a.pending.plan.idx? = .ok i ∧ idx = i.value) :
      Effect σ s [⟨a.proposed, { a.draft with idx := idx }, .error err⟩]
        ⟨σ.database, rest,
          σ.finished ++ [⟨a.proposed, { a.draft with idx := idx }, .error err⟩], log⟩ s
  /-- An append is made. -/
  | committed (a : Underway) (rest : List Underway) (idx : Cell) (s' : Store)
      (now : Time.Instant) (log : List LogLine) (member : a ∈ σ.underway)
      (others : rest.Sublist σ.underway) (position : a.pending.plan.idx? = .ok idx)
      (committed : a.draft.commit s a.pending now = .ok s') :
      Effect σ s [⟨a.proposed, a.stored idx now, .ok ()⟩]
        ⟨σ.database.withStore s', rest, σ.finished ++ [⟨a.proposed, a.stored idx now, .ok ()⟩], log⟩ s'

variable {σ σ' : Scene} {s s' : Store} {d : Draft} {added : List Finished}

/-! ## What a move does -/

theorem look_effect (sound : σ.Sound s) (known : d.Known s) (now : Time.Instant) :
    ∃ added, σ.Effect s added (σ.look d now) s := by
  unfold look
  rcases Draft.prepare_cases now known.not_lost sound.found with
    ⟨d', err, settled, same⟩ | ⟨d', e, err, settled, planned, same⟩ |
      ⟨d', e, p, idx, log, settled, planned, same⟩
  · rw [same]
    exact ⟨_, .invalid d d' err _ known settled⟩
  · rw [same]
    exact ⟨_, .refused d d' e err _ known settled planned⟩
  · rw [same]
    obtain ⟨free, fits, -⟩ := Store.plan_eq_ok_iff.1 planned
    have isNew := known.isNew settled free
    have kept := Draft.settle_keeps.1.trans isNew
    rw [settled] at kept
    exact ⟨[], .looked ⟨d, _, ⟨e, p, now⟩⟩ _ ⟨kept, isNew, ⟨d', idx, settled, rfl⟩, fits⟩ planned⟩

theorem write_effect (sound : σ.Sound s) (number : Nat) (now : Time.Instant) :
    ∃ added s', σ.Effect s added (σ.write number now) s' := by
  unfold write
  cases found : σ.underway[number]? with
  | none => exact ⟨[], s, .none⟩
  | some a =>
      have member := List.mem_of_getElem? found
      have ready := sound.underway a member
      have others := List.eraseIdx_sublist σ.underway number
      cases committed : a.draft.commit s a.pending now with
      | error err =>
          obtain ⟨idx, same, position⟩ :=
            Draft.complete_of_error ready.isNew sound.found committed
          simp only [same]
          exact ⟨_, s, .failed a _ idx err now _ member others committed position⟩
      | ok s' =>
          obtain ⟨idx, position, same⟩ := Draft.complete_of_ok ready.isNew sound.found committed
          simp only [same]
          exact ⟨_, s', .committed a _ idx s' now _ member others position committed⟩

theorem move_effect (sound : σ.Sound s) (m : Move) :
    ∃ added s', σ.Effect s added (σ.move m) s' := by
  cases m with
  | look submission now =>
      obtain ⟨added, effect⟩ := look_effect sound (.inl submission.isNew) now
      exact ⟨added, s, effect⟩
  | again number now =>
      simp only [move]
      cases found : σ.finished[number]? with
      | none => exact ⟨[], s, .none⟩
      | some a =>
          have known := sound.finished a (List.mem_of_getElem? found)
          obtain ⟨added, effect⟩ := look_effect sound known now
          exact ⟨added, s, effect⟩
  | write number now => exact write_effect sound number now

/-! ## Sound scenes -/

theorem sound_opening (stamp : Option Bool) : (opening stamp).Sound Store.empty where
  found := rfl
  store := Store.sound_empty
  underway _ member := by cases member
  finished _ member := by cases member

theorem Effect.finished (effect : σ.Effect s added σ' s') : σ'.finished = σ.finished ++ added := by
  cases effect <;> simp

/-- An effect makes no append and leaves the tables, or it makes one. -/
theorem Effect.unmade_or_made (effect : σ.Effect s added σ' s') (sound : σ.Sound s) :
    (s' = s ∧ ∀ a ∈ added, a.outcome ≠ .ok ()) ∨
      ∃ (a : Underway) (c : ChainName) (v idx : Cell) (now : Time.Instant),
        added = [⟨a.proposed, a.stored idx now, .ok ()⟩] ∧ a.Pushes s c v idx now s' := by
  cases effect with
  | none => exact .inl ⟨rfl, by simp⟩
  | looked => exact .inl ⟨rfl, by simp⟩
  | invalid => exact .inl ⟨rfl, by simp⟩
  | refused => exact .inl ⟨rfl, by simp⟩
  | failed => exact .inl ⟨rfl, by simp⟩
  | committed a rest idx _ now log member others position committed =>
      have ready := sound.underway a member
      obtain ⟨c, v, chain, continues, -, free, version, tables⟩ :=
        (sound.store.commit_eq_ok_iff ready.fits).1 (Draft.commit_eq_ok committed)
      exact .inr ⟨a, c, v, idx, now, rfl, ready, position, chain, continues, free, version, tables⟩

/-- No effect removes a record. -/
theorem Effect.grows (effect : σ.Effect s added σ' s') (sound : σ.Sound s) : s.Grows s' := by
  rcases effect.unmade_or_made sound with ⟨rfl, -⟩ | ⟨a, c, v, idx, now, -, pushes⟩
  · exact .refl s'
  · rw [pushes.tables]
    exact Store.grows_pushed

/-- Every effect leaves a sound scene sound. -/
theorem Effect.sound (effect : σ.Effect s added σ' s') (sound : σ.Sound s) : σ'.Sound s' := by
  have snoc {l : List Finished} {a : Finished} {t : Store} (old : ∀ b ∈ l, b.draft.Known t)
      (new : a.draft.Known t) : ∀ b ∈ l ++ [a], b.draft.Known t := by
    intro b member
    rcases List.mem_append.1 member with inside | last
    · exact old b inside
    · rwa [List.mem_singleton.1 last]
  cases effect with
  | none => exact sound
  | looked a log ready planned =>
      refine ⟨sound.found, sound.store, fun b member => ?_, sound.finished⟩
      rcases List.mem_append.1 member with inside | last
      · exact sound.underway b inside
      · rwa [List.mem_singleton.1 last]
  | invalid d d' err log known settled =>
      have left := known.settle
      rw [settled] at left
      exact ⟨sound.found, sound.store, sound.underway, snoc sound.finished left⟩
  | refused d d' e err log known settled planned =>
      have left := known.settle
      rw [settled] at left
      exact ⟨sound.found, sound.store, sound.underway, snoc sound.finished left⟩
  | failed a rest idx err now log member others failed position =>
      have isNew := (sound.underway a member).isNew
      refine ⟨sound.found, sound.store, fun b inside => sound.underway b (others.subset inside), ?_⟩
      exact snoc sound.finished (.inl isNew)
  | committed a rest idx _ now log member others position committed =>
      have ready := sound.underway a member
      have made := Draft.commit_eq_ok committed
      obtain ⟨store, grows⟩ := sound.store.commit ready.fits made
      refine ⟨Database.store_withStore sound.found, store,
        fun b inside => (sound.underway b (others.subset inside)).mono grows, ?_⟩
      refine snoc (fun b inside => (sound.finished b inside).mono grows) (.inr ?_)
      obtain ⟨c, v, -, -, -, free, -, rfl⟩ := (sound.store.commit_eq_ok_iff ready.fits).1 made
      obtain ⟨d, position, settled, same⟩ := ready.settled
      have id : a.draft.id = .uuid a.pending.entry.id := by
        rw [same, (Draft.settle_eq_ok settled).2.1]
      exact ⟨a.pending.entry.id, _, ⟨id, by simp [Underway.stored]⟩, Store.record?_pushed_self free⟩

/-! ## What an effect finishes -/

theorem Effect.none_or_one (effect : σ.Effect s added σ' s') :
    (added = [] ∧ s' = s) ∨ ∃ a, added = [a] := by
  cases effect with
  | none => exact .inl ⟨rfl, rfl⟩
  | looked => exact .inl ⟨rfl, rfl⟩
  | invalid => exact .inr ⟨_, rfl⟩
  | refused => exact .inr ⟨_, rfl⟩
  | failed => exact .inr ⟨_, rfl⟩
  | committed => exact .inr ⟨_, rfl⟩

/-- A record that is stored was there before, or one of the appends that are finished has made
it. -/
theorem Effect.stored {id : Uuid} (effect : σ.Effect s added σ' s') (sound : σ.Sound s)
    (stored : (s'.record? id).isSome) :
    (s.record? id).isSome ∨ ∃ a ∈ added, a.outcome = .ok () ∧ a.proposed.id? = some id := by
  rcases effect.unmade_or_made sound with ⟨rfl, -⟩ | ⟨a, c, v, idx, now, rfl, pushes⟩
  · exact .inl stored
  · rw [pushes.tables, Store.record?_pushed, Option.isSome_or, Bool.or_eq_true] at stored
    refine stored.imp_right fun new => ?_
    split at new
    · rename_i same
      exact ⟨_, List.mem_singleton_self _, rfl, by rw [Draft.id?, pushes.ready.settled?, ← same]; rfl⟩
    · cases new

/-- What an effect stores is accounted for by the appends that have been finished by then. -/
theorem Effect.stored_since {begun : Store} {finished : List Finished}
    (effect : σ.Effect s added σ' s') (sound : σ.Sound s)
    (before : ∀ id, (s.record? id).isSome → (begun.record? id).isSome ∨
      ∃ a ∈ finished, a.outcome = .ok () ∧ a.proposed.id? = some id)
    (id : Uuid) (stored : (s'.record? id).isSome) : (begun.record? id).isSome ∨
      ∃ a ∈ finished ++ added, a.outcome = .ok () ∧ a.proposed.id? = some id := by
  rcases effect.stored sound stored with earlier | ⟨a, member, made⟩
  · exact (before id earlier).imp_right fun ⟨a, member, made⟩ =>
      ⟨a, List.mem_append_left _ member, made⟩
  · exact .inr ⟨a, List.mem_append_right _ member, made⟩

/-- What holds of all records, and of each one that is made from a draft that passes the checks,
still holds of all. -/
theorem Effect.forall_records {P : Record → Prop} (effect : σ.Effect s added σ' s')
    (sound : σ.Sound s) (made : ∀ (d d' : Draft) (e : Entry) (c : ChainName) (version idx : Cell)
      (now : Time.Instant), d.settle = (d', .ok e) → P (e.toRecord c version idx now))
    (all : ∀ r ∈ s.records, P r) : ∀ r ∈ s'.records, P r := by
  rcases effect.unmade_or_made sound with ⟨rfl, -⟩ | ⟨a, c, v, idx, now, -, pushes⟩
  · exact all
  · obtain ⟨d, given, settled, -⟩ := pushes.ready.settled
    rw [pushes.tables]
    intro r stored
    rcases List.mem_append.1 stored with old | new
    · exact all r old
    · obtain rfl := List.mem_singleton.1 new
      exact made a.proposed d _ c v _ now settled

/-- Appends to other chains leave a chain that is named by a text as it is. -/
theorem Effect.chain_unchanged {c : ChainName} {tag : String} (effect : σ.Effect s added σ' s')
    (sound : σ.Sound s) (text : c.tag = .text tag) (others : ∀ a ∈ added, a.proposed.chain? ≠ some c) :
    s'.ofChain c = s.ofChain c ∧ s'.tip? c = s.tip? c := by
  rcases effect.unmade_or_made sound with ⟨rfl, -⟩ | ⟨a, c', v, idx, now, rfl, pushes⟩
  · exact ⟨rfl, rfl⟩
  · have other : c' ≠ c := by
      rintro rfl
      exact others _ (List.mem_singleton_self _)
        (Draft.chain?_of_named pushes.ready.settled? (pushes.ready.fits.named pushes.chain text))
    rw [pushes.tables]
    exact ⟨by rw [Store.ofChain_pushed, if_neg other, List.append_nil], Store.tip?_pushed_of_ne other⟩

/-! ## Runs -/

/-- What every effect keeps, of the tables and of the appends finished so far, holds after every
run. -/
theorem run_induction {P : List Finished → Store → Prop} (sound : σ.Sound s) (start : P [] s)
    (step : ∀ (finished : List Finished) (τ : Scene) (t : Store) (added : List Finished) (τ' : Scene)
      (t' : Store), τ.Sound t → τ.Effect t added τ' t' → P finished t → P (finished ++ added) t')
    (moves : List Move) :
    ∃ s', (σ.run moves).Sound s' ∧ P (σ.finishedBy moves) s' := by
  suffices ∀ (τ : Scene) (t : Store) (finished : List Finished), τ.Sound t →
      τ.finished = σ.finished ++ finished → P finished t → ∀ moves,
        ∃ t' finished', (τ.run moves).Sound t' ∧
          (τ.run moves).finished = σ.finished ++ finished' ∧ P finished' t' by
    obtain ⟨t, finished, after, split, holds⟩ := this σ s [] sound (by simp) start moves
    exact ⟨t, after, by rwa [finishedBy, split, List.drop_left]⟩
  intro τ t finished sound split holds moves
  induction moves generalizing τ t finished with
  | nil => exact ⟨t, finished, sound, split, holds⟩
  | cons m moves ih =>
      obtain ⟨added, t', effect⟩ := move_effect sound m
      refine ih _ t' (finished ++ added) (effect.sound sound) ?_ (step _ _ _ _ _ _ sound effect holds)
      rw [effect.finished, split, List.append_assoc]

theorem run_sound (sound : σ.Sound s) (moves : List Move) : ∃ s', (σ.run moves).Sound s' := by
  obtain ⟨s', after, -⟩ := run_induction (P := fun _ _ => True) sound trivial
    (fun _ _ _ _ _ _ _ _ _ => trivial) moves
  exact ⟨s', after⟩

theorem run_append (σ : Scene) (moves more : List Move) :
    σ.run (moves ++ more) = (σ.run moves).run more := List.foldl_append

theorem run_grows (sound : σ.Sound s) (moves : List Move) :
    ∃ s', (σ.run moves).Sound s' ∧ s.Grows s' :=
  run_induction (P := fun _ t => s.Grows t) sound (.refl s)
    (fun _ _ _ _ _ _ soundT effect grows => grows.trans (effect.grows soundT)) moves

/-- What holds of the records at the beginning, and of each one that is made from a draft that passes
the checks, holds of all records after a run. -/
theorem run_records {P : Record → Prop} (sound : σ.Sound s) (all : ∀ r ∈ s.records, P r)
    (made : ∀ (d d' : Draft) (e : Entry) (c : ChainName) (version idx : Cell) (now : Time.Instant),
      d.settle = (d', .ok e) → P (e.toRecord c version idx now)) (moves : List Move) :
    ∃ s', (σ.run moves).Sound s' ∧ ∀ r ∈ s'.records, P r :=
  run_induction (P := fun _ t => ∀ r ∈ t.records, P r) sound all
    (fun _ _ _ _ _ _ soundT effect all => effect.forall_records soundT made all) moves

end Scene

end ChainLog
