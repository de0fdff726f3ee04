/-
# Sessions and ledgers

From empty tables a session answers every request as a ledger does, one after the other, as
long as its chains are shorter than 2^63 (`session_refines_ledger`).

Between two requests the session's store is sound and holds the ledger (`Holds`).  One lemma
says so of an append, another of each other request, and the run is an induction over the list
of requests.
-/
import ChainLog.Proofs.DraftAppend
import ChainLog.Proofs.LedgerOfStore

namespace ChainLog

set_option autoImplicit false

open Session

/-- A reading is told by its records alone. -/
def Session.Payload.plain : Payload → Payload
  | .reading _ _ l => .records l
  | p => p

/-- The session's tables hold the ledger, and its pages can be read. -/
structure Session.State.Holds (st : State) (l : Ledger) (now : Time.Instant) : Prop where
  store : ∃ s, st.database.store = .ok s ∧ s.Sound ∧ s.ledger = l
  now : st.now = now
  word : IsWord st.service.pageSize
  nonzero : st.service.pageSize ≠ 0

variable {s : Store} {db : Database} {d : Draft} {p : Proposal} {tag version : String} {st : State}
  {l : Ledger} {now : Time.Instant}

/-! ## Appends -/

/-- What a proposal makes is a new draft with the texts that are proposed. -/
theorem Session.Proposal.build_eq_ok (h : p.build = .ok d) :
    d.origin = .new ∧ d.createdAt = .pending ∧ (d.tag, d.version) = p.texts := by
  cases p with
  | given id host parent timestamp version tag payload userId =>
      simp only [build, Draft.given] at h
      cases read : parent.toUuid with
      | error e => rw [read] at h; cases h
      | ok u =>
          rw [read] at h
          obtain rfl := Except.ok.inj h
          exact ⟨rfl, rfl, rfl⟩
  | fresh random nanoseconds host tag version payload userId parent =>
      simp only [build, Draft.fresh, Draft.given] at h
      cases home : host.toUuid with
      | error e => rw [home] at h; cases h
      | ok u =>
          cases read : parent.toUuid with
          | error e => rw [home, read] at h; cases h
          | ok v =>
              rw [home, read] at h
              obtain rfl := Except.ok.inj h
              exact ⟨rfl, rfl, rfl⟩

/-- An append does to the tables what it does to the ledger that they hold, and answers the
same. -/
theorem Store.Sound.append_ledger (sound : s.Sound) (found : db.store = .ok s) (new : d.origin = .new)
    (pending : d.createdAt = .pending) (text : d.tag = .text tag) (storable : d.version = .text version)
    (short : ∀ c, (s.ofChain c).length < 0x8000000000000000) (now : Time.Instant) :
    ∃ db' d' log outcome s', d.append db now = (db', d', log, outcome) ∧ db'.store = .ok s' ∧
      s'.Sound ∧ s'.ledger = (s.ledger.append now d tag version).1 ∧
        (outcome.mapError Fault.ofAppend).map (fun _ => Payload.draft d') =
          (s.ledger.append now d tag version).2 := by
  have kept : d.origin ≠ .lost := by simp [new]
  rcases settled : d.settle with ⟨d', invalid | e⟩
  · have alone : d.append db now = _ := Draft.append_of_invalid now kept settled
    refine ⟨db, d', _, _, s, alone, found, sound, ?_, ?_⟩
    · simp only [Ledger.append, settled]
    · simp only [Ledger.append, settled]
      rfl
  · obtain ⟨-, -, tagged, versioned⟩ := Draft.settle_eq_ok settled
    rw [text] at tagged
    rw [storable] at versioned
    -- Nobody has assigned a time of storing.
    have writes (p : Plan) : d'.commit s ⟨e, p, now⟩ now = s.commit e p now now := by
      have same := (Draft.settle_keeps (d := d)).2
      rw [settled, pending] at same
      exact Draft.commit_of_dated fun v assigned => by cases same.symm.trans assigned
    cases refusal : s.ledger.refusal? e ⟨e.host, .text tag⟩ with
    | some r =>
        have same : s.ledger.append now d tag version = (s.ledger, .error (.refused r false)) := by
          simp only [Ledger.append, settled, refusal]
        rw [same]
        rcases sound.refused_of_ledger tagged.symm refusal with refused | ⟨p, planned, failed⟩
        · have alone := Draft.append_of_refused now kept found settled refused
          exact ⟨db, d', _, _, s, alone, found, sound, rfl, rfl⟩
        · obtain ⟨idx, log, alone⟩ :=
            Draft.append_of_failed new found settled planned ((writes p).trans (failed now now))
          exact ⟨db, _, log, _, s, alone, found, sound, rfl, rfl⟩
    | none =>
        obtain ⟨p, planned, position, made⟩ :=
          sound.made_of_ledger tagged.symm versioned.symm (short _) refusal
        obtain ⟨free, continues, -⟩ := sound.continues_of_ledger tagged.symm refusal
        obtain ⟨idx, log, next, alone⟩ :=
          Draft.append_of_made new found settled planned ((writes p).trans (made now now))
        obtain rfl := Except.ok.inj (next.symm.trans position)
        refine ⟨_, _, log, _, _, alone, Database.store_withStore found,
          sound.pushed continues (short _) free, ?_, ?_⟩
        · simp only [Ledger.append, settled, refusal, sound.ledger_pushed, sound.log_ledger]
        · simp only [Ledger.append, settled, refusal, sound.log_ledger]
          rfl

/-! ## Other requests -/

theorem reading_outcome (found : st.database.store = .ok s) (v : Value)
    (f : Store → Uuid → Except Fault Payload) : (st.reading v f).outcome = Ledger.about v (f s) := by
  unfold State.reading Ledger.about
  cases v.toUuid with
  | error e => rfl
  | ok u => simp only [found]; rfl

/-- A reading of a whole chain, or of what follows a record. -/
theorem readChain_outcome (sound : s.Sound) (found : st.database.store = .ok s)
    (word : IsWord st.service.pageSize) (nonzero : st.service.pageSize ≠ 0) (r : ChainRequest)
    (full : Bool) (asked : ∀ n ∈ r.pageSize, IsWord n) :
    (st.readChain r full).outcome.map Payload.plain =
      (s.ledger.reply now (.readChain r full asked)).2 := by
  obtain ⟨word, nonzero⟩ := pageSizeOr_readable asked word nonzero
  simp only [State.readChain, State.request, Ledger.reply, Ledger.about]
  cases r.host.toUuid with
  | error e => rfl
  | ok host =>
      cases r.since.toUuid with
      | error e => rfl
      | ok id =>
          simp only [Database.chain, found]
          rcases sound.startAfter_ledger ⟨host, .text r.tag⟩ id with
            ⟨missing, same, nowhere⟩ | ⟨p, same, start⟩
          · rw [same, nowhere]
            rfl
          · rw [same, start]
            simp only [Except.map]
            rw [Chain.read_eq sound found word nonzero rfl]
            rfl

theorem verify_outcome (now : Time.Instant) (sound : s.Sound) (found : st.database.store = .ok s)
    (word : IsWord st.service.pageSize) (nonzero : st.service.pageSize ≠ 0) (host : Value)
    (tag : String) :
    ((Step.verify host tag none).run st).1 = st ∧
      ((Step.verify host tag none).run st).2.outcome.map Payload.plain =
        (s.ledger.reply now (.verify host tag)).2 := by
  simp only [Step.run, Ledger.reply, Ledger.about]
  cases host.toUuid with
  | error e => exact ⟨rfl, rfl⟩
  | ok u =>
      simp only [Database.tipRow, found, sound.log_ledger]
      cases tip : s.tip? ⟨u, .text tag⟩ with
      | none =>
          rw [if_pos (sound.absent_iff.1 tip)]
          exact ⟨rfl, rfl⟩
      | some row =>
          rw [if_neg (sound.tops _ row tip).nonempty]
          simp only [runInner, sound.verify found tip word nonzero]
          exact ⟨trivial, rfl⟩

/-- **One request.**  The session answers it as the ledger does that its tables hold, and they
hold the ledger that it makes. -/
theorem Session.State.Holds.call (holds : st.Holds l now) (call : Call)
    (short : ∀ c, (l.log c).length < 0x8000000000000000) :
    (call.step.run st).1.Holds (l.reply now call).1 (call.time now) ∧
      (call.step.run st).2.outcome.map Payload.plain = (l.reply now call).2 := by
  obtain ⟨⟨s, found, sound, rfl⟩, time, word, nonzero⟩ := holds
  have still : st.Holds s.ledger now := ⟨⟨s, found, sound, rfl⟩, time, word, nonzero⟩
  simp only [sound.log_ledger] at short
  cases call with
  | clock later => exact ⟨⟨⟨s, found, sound, rfl⟩, rfl, word, nonzero⟩, rfl⟩
  | service pageSize asked =>
      obtain ⟨word', nonzero'⟩ := Service.ofPageSize_readable asked
      exact ⟨⟨⟨s, found, sound, rfl⟩, time, word', nonzero'⟩, rfl⟩
  | append p keep tag version texts =>
      simp only [Call.step, Step.run, State.append, Ledger.reply]
      cases built : p.build with
      | error e => exact ⟨still, rfl⟩
      | ok d =>
          obtain ⟨new, pending, same⟩ := p.build_eq_ok built
          rw [texts, Prod.mk.injEq] at same
          obtain ⟨db', d', log, outcome, s', alone, found', sound', holds', answer⟩ :=
            sound.append_ledger found new pending same.1 same.2 short st.now
          simp only [State.appendDraft, alone]
          subst time
          constructor
          · cases keep with
            | none => exact ⟨⟨s', found', sound', holds'⟩, rfl, word, nonzero⟩
            | some name => exact ⟨⟨s', found', sound', holds'⟩, rfl, word, nonzero⟩
          · rw [← answer]
            cases outcome <;> rfl
  | get id =>
      refine ⟨still, ?_⟩
      simp only [Call.step, Step.run, Ledger.reply, reading_outcome found, Ledger.about,
        sound.record?_ledger]
      cases id.toUuid with
      | error e => rfl
      | ok u =>
          simp only
          cases s.record? u <;> rfl
  | tipRecord host tag =>
      refine ⟨still, ?_⟩
      simp only [Call.step, Step.run, Ledger.reply, reading_outcome found, Ledger.about,
        sound.log_ledger, sound.tipRecord?]
      cases host.toUuid <;> rfl
  | head host tag =>
      refine ⟨still, ?_⟩
      simp only [Call.step, Step.run, Ledger.reply, reading_outcome found, Ledger.about,
        sound.log_ledger, sound.head?]
      cases host.toUuid <;> rfl
  | length host tag =>
      refine ⟨still, ?_⟩
      simp only [Call.step, Step.run, Ledger.reply, reading_outcome found, Ledger.about,
        sound.log_ledger, sound.lengthOf, Cell.counted_of_lt (short _)]
      cases host.toUuid <;> rfl
  | readChain r full asked =>
      refine ⟨still, ?_⟩
      simp only [Call.step, Step.run]
      exact readChain_outcome sound found word nonzero r full asked
  | status userId =>
      refine ⟨still, ?_⟩
      simp only [Call.step, Step.run, Ledger.reply, sound.status_ledger found]
      cases s.ledger.status userId <;> rfl
  | verify host tag =>
      obtain ⟨same, answer⟩ :=
        verify_outcome now sound found word nonzero host tag
      exact ⟨by rw [Call.step, same]; exact still, answer⟩

/-! ## Runs -/

/-- A session that holds a ledger answers requests as the ledger does, while its chains stay
shorter than 2^63. -/
theorem Session.State.Holds.run (holds : st.Holds l now) (calls : List Call)
    (short : ∀ c, ((l.run now calls).1.log c).length < 0x8000000000000000) :
    (runAll st (calls.map Call.step)).2.map (fun a => a.outcome.map Payload.plain) =
      (l.run now calls).2 := by
  induction calls generalizing st l now with
  | nil => rfl
  | cons call rest ih =>
      have shorter (c : ChainName) : (l.log c).length < 0x8000000000000000 :=
        Nat.lt_of_le_of_lt (Ledger.log_run (call :: rest)).length_le (short c)
      obtain ⟨holds', answer⟩ := holds.call call shorter
      have later := ih holds' short
      simp only [List.map_cons, runAll, Ledger.run, answer, later]

end ChainLog
