/-
# Contenders for one place

Several records contend for the place after a parent that comes last in their chain, or for
the head of a chain that is not there yet.  However their appends are interleaved, with one
another and with appends to other chains, one of them is made and the others are forks
(`one_contender_wins`).

A run is undecided until one of the contenders is finished (`Undecided`), which is then made,
and decided from then on (`Decided`): the winner stands last in the chain, and each contender
finished later has lost to it.
-/
import ChainLog.Proofs.Interleaving

namespace ChainLog

set_option autoImplicit false

/-- A valid draft of a record that is not stored: it names the chain, the parent and a version
that can be stored, and nobody has assigned its time of storing. -/
structure Draft.Contends (d : Draft) (s : Store) (c : ChainName) (parent : Uuid) (e : Entry) :
    Prop where
  entry : d.settled? = some e
  chain : ∃ tag, e.tag = .text tag ∧ c = ⟨e.host, .text tag⟩
  parent : e.parent = parent
  free : s.record? e.id = none
  version : ∃ v, e.version.inTexts = .ok (some v)
  dated : ∀ v, d.createdAt ≠ .assigned v

/-- Drafts with different identifiers that contend for the place after one parent. -/
structure Contest (s : Store) (c : ChainName) (parent : Uuid) (ds : List Draft) : Prop where
  nonempty : ds ≠ []
  /-- The parent is the tip, or it is nil and there is no chain. -/
  continues : s.Continues c parent
  /-- The next position is a 64-bit integer. -/
  room : (s.ofChain c).length < 0x8000000000000000
  contenders : ∀ d ∈ ds, ∃ e, d.Contends s c parent e
  apart : (ds.map Draft.id?).Nodup

/-- The appends among them that are to a chain. -/
def Finished.toChain (c : ChainName) (finished : List Finished) : List Finished :=
  finished.filter (·.proposed.chain? = some c)

/-- The append is refused as a fork from the parent.  It reports the winner as the tip; a head
may report none, if it was the key of the tip rows that refused it. -/
def Finished.LostTo (a : Finished) (parent winner : Uuid) : Prop :=
  ∃ e tip byKey, a.proposed.settled? = some e ∧ a.outcome = .error (.refused (e.forks tip) byKey) ∧
    (tip = some winner ∨ (parent = Uuid.nil ∧ tip = none ∧ byKey = true))

/-- What is assumed of the appends that a run finishes: those to the chain are of contenders,
each of them once at most, and no other one stores the identifier of a contender. -/
structure Fair (c : ChainName) (ds : List Draft) (finished : List Finished) : Prop where
  entrants : ∀ a ∈ finished, a.proposed.chain? = some c → a.proposed ∈ ds
  once : ((Finished.toChain c finished).map (·.proposed.id?)).Nodup
  others : ∀ a ∈ finished, a.proposed.chain? ≠ some c → a.outcome = .ok () →
    ∀ d ∈ ds, a.proposed.id? ≠ d.id?

/-- None of the contenders is finished, and their chain is as it was. -/
structure Undecided (s t : Store) (c : ChainName) (contest : List Finished) : Prop where
  started : contest = []
  chain : t.ofChain c = s.ofChain c
  tip : t.tip? c = s.tip? c

/-- One of the contenders has won: the chain has its record more. -/
structure Decided (s t : Store) (c : ChainName) (parent : Uuid) (contest : List Finished)
    (winner : Finished) (losers : List Finished) (r : Record) : Prop where
  contest : contest = winner :: losers
  made : winner.outcome = .ok ()
  idx : winner.draft.idx = .int (s.ofChain c).length
  id : winner.proposed.id? = some r.id
  fresh : s.record? r.id = none
  chain : t.ofChain c = s.ofChain c ++ [r]
  tip : (t.tip? c).map (·.tipId) = some r.id
  lost : ∀ a ∈ losers, a.LostTo parent r.id

variable {s t t' : Store} {c : ChainName} {parent : Uuid} {ds : List Draft} {d : Draft} {e : Entry}
  {p : Plan} {finished added losers : List Finished} {a w : Finished} {r : Record} {τ τ' : Scene}

theorem Finished.toChain_append :
    toChain c (finished ++ added) = toChain c finished ++ toChain c added := List.filter_append ..

theorem Fair.of_append (fair : Fair c ds (finished ++ added)) : Fair c ds finished where
  entrants a member := fair.entrants a (List.mem_append_left _ member)
  once := by
    have once := fair.once
    rw [Finished.toChain_append, List.map_append] at once
    exact (List.nodup_append.1 once).1
  others a member := fair.others a (List.mem_append_left _ member)

namespace Contest

/-! ## What contenders find -/

/-- A parent that is not nil is stored in the chain. -/
theorem home (contest : Contest s c parent ds) (sound : s.Sound) (child : parent ≠ Uuid.nil) :
    ∃ q, s.record? parent = some q ∧ q.chain = c := by
  have continues := contest.continues
  rw [Store.Continues, if_neg child] at continues
  obtain ⟨row, tip, rfl⟩ := Option.map_eq_some_iff.1 continues
  obtain ⟨-, q, -, -, stored⟩ := sound.last_of_tip tip
  exact ⟨q, stored, (sound.next_of_tip tip stored).1⟩

/-- The plan of a contender, whatever has happened since. -/
theorem fits_iff (contest : Contest s c parent ds) (contends : d.Contends s c parent e)
    (sound : s.Sound) (grows : s.Grows t) :
    p.Fits t e ↔ (parent = Uuid.nil ∧ p = .start (some c)) ∨
      (parent ≠ Uuid.nil ∧ ∃ q, t.record? parent = some q ∧ q.chain = c ∧ p = .extend c q.idx) := by
  obtain ⟨tag, text, rfl⟩ := contends.chain
  constructor
  · intro fits
    cases fits with
    | start head named =>
        rw [text, chainNamed_text] at named
        exact .inl ⟨contends.parent ▸ head, congrArg Plan.start (Except.ok.inj named).symm⟩
    | @extend q child stored host same hashable =>
        rw [contends.parent] at child stored
        obtain ⟨q', stored', chain⟩ := contest.home sound child
        obtain rfl : q' = q := Option.some.inj ((grows.record? stored').symm.trans stored)
        exact .inr ⟨child, q', stored, chain, by rw [chain]⟩
  · rintro (⟨head, rfl⟩ | ⟨child, q, stored, chain, rfl⟩)
    · exact .start (contends.parent.trans head) (by rw [text, chainNamed_text])
    · rw [← contends.parent] at child stored
      rw [← chain]
      refine .extend child stored (by rw [chain]) ?_ (by rw [text]; rfl)
      rw [chain, text, Value.equalsCell_text]

theorem chain_of_fits (contest : Contest s c parent ds) (contends : d.Contends s c parent e)
    (sound : s.Sound) (grows : s.Grows t) (fits : p.Fits t e) : p.chain? = some c := by
  rcases (contest.fits_iff contends sound grows).1 fits with ⟨-, rfl⟩ | ⟨-, q, -, -, rfl⟩
  · rfl
  · rfl

theorem exists_fits (contest : Contest s c parent ds) (contends : d.Contends s c parent e)
    (sound : s.Sound) (grows : s.Grows t) : ∃ p : Plan, p.Fits t e := by
  by_cases head : parent = Uuid.nil
  · exact ⟨_, (contest.fits_iff contends sound grows).2 (.inl ⟨head, rfl⟩)⟩
  · obtain ⟨q, stored, chain⟩ := contest.home sound head
    exact ⟨_, (contest.fits_iff contends sound grows).2
      (.inr ⟨head, q, grows.record? stored, chain, rfl⟩)⟩

end Contest

/-- What a move makes of a contender that it finishes. -/
theorem Scene.Effect.of_contender (effect : τ.Effect t [a] τ' t') (sound : τ.Sound t)
    (contends : a.proposed.Contends s c parent e) :
    (∃ err, t' = t ∧ a.outcome = .error err ∧
        (t.plan e = .error err ∨ ∃ (p : Plan) (planned now : Time.Instant),
          p.Fits t e ∧ t.commit e p planned now = .error err)) ∨
      ∃ (p : Plan) (planned now : Time.Instant) (idx : Cell), p.Fits t e ∧
        t.commit e p planned now = .ok t' ∧ p.idx? = .ok idx ∧ a.outcome = .ok () ∧
          a.draft.idx = idx.value := by
  cases effect with
  | invalid d d' err log known settled =>
      have entry := contends.entry
      rw [Draft.settled?, settled] at entry
      cases entry
  | refused d d' e' err log known settled planned =>
      obtain rfl : e' = e :=
        Option.some.inj ((Draft.settled?_of_settle settled).symm.trans contends.entry)
      exact .inl ⟨err, rfl, rfl, .inl planned⟩
  | failed b rest idx err now log member others failed position =>
      have ready := sound.underway b member
      obtain rfl : b.pending.entry = e := Option.some.inj (ready.settled?.symm.trans contends.entry)
      rw [Draft.commit_of_dated (ready.createdAt ▸ contends.dated)] at failed
      exact .inl ⟨err, rfl, rfl, .inr ⟨_, _, _, ready.fits, failed⟩⟩
  | committed b rest idx _ now log member others position committed =>
      have ready := sound.underway b member
      obtain rfl : b.pending.entry = e := Option.some.inj (ready.settled?.symm.trans contends.entry)
      exact .inr ⟨_, _, _, idx, ready.fits, Draft.commit_eq_ok committed, position, rfl, rfl⟩

namespace Contest

/-! ## The first contender to finish -/

theorem wins (contest : Contest s c parent ds) (soundS : s.Sound) (grows : s.Grows t)
    (sound : τ.Sound t) (contends : a.proposed.Contends s c parent e) (free : t.record? e.id = none)
    (undecided : Undecided s t c (Finished.toChain c finished)) (effect : τ.Effect t [a] τ' t') :
    ∃ r, Decided s t' c parent [a] a [] r := by
  have continues : t.Continues c e.parent := by
    rw [contends.parent, Store.Continues, undecided.tip]
    exact contest.continues
  obtain ⟨v, version⟩ := contends.version
  have made {p : Plan} (planned now : Time.Instant) (fits : p.Fits t e) :
      t.commit e p planned now = .ok (t.pushed e c v planned now) :=
    (sound.store.commit_eq_ok_iff fits).2 ⟨c, v, contest.chain_of_fits contends soundS grows fits,
      continues, by rw [undecided.chain]; exact contest.room, free, version, rfl⟩
  rcases effect.of_contender sound contends with
    ⟨err, -, -, refused | ⟨p, planned, now, fits, failed⟩⟩ |
      ⟨p, planned, now, idx, fits, committed, position, outcome, given⟩
  · -- The look-ups of a contender find what it needs.
    obtain ⟨p, fits⟩ := contest.exists_fits contends soundS grows
    rcases Store.plan_cases fits with planned | ⟨taken, -⟩ | ⟨c', row, rfl, tip, -⟩
    · rw [planned] at refused
      cases refused
    · rw [free] at taken
      cases taken
    · obtain rfl : c' = c := Option.some.inj (contest.chain_of_fits contends soundS grows fits)
      cases fits with
      | start head named =>
          rw [Store.Continues, if_pos head, tip] at continues
          cases continues
  · rw [made planned now fits] at failed
    cases failed
  · rw [made planned now fits] at committed
    obtain rfl := Except.ok.inj committed
    have chain := contest.chain_of_fits contends soundS grows fits
    have place := sound.store.position_of_continues fits chain continues
    obtain rfl := Except.ok.inj (position.symm.trans place)
    refine ⟨e.toRecord c v (.int (t.ofChain c).length) now, rfl, outcome, ?_, ?_, contends.free,
      ?_, ?_, ?_⟩
    · rw [given, undecided.chain]
      rfl
    · rw [Draft.id?, contends.entry]
      rfl
    · rw [Store.ofChain_pushed, if_pos rfl, undecided.chain]
    · rw [sound.store.tip?_pushed (by rw [undecided.chain]; exact contest.room)]
      rfl
    · intro b member
      cases member

/-! ## The others -/

theorem loses (contest : Contest s c parent ds) (soundS : s.Sound) (grows : s.Grows t)
    (sound : τ.Sound t) (contends : a.proposed.Contends s c parent e) (free : t.record? e.id = none)
    (decided : Decided s t c parent (Finished.toChain c finished) w losers r)
    (effect : τ.Effect t [a] τ' t') : t' = t ∧ a.LostTo parent r.id := by
  obtain ⟨row, tip, won⟩ := Option.map_eq_some_iff.1 decided.tip
  -- The parent is not the tip any more, if it ever was.
  have moved : parent ≠ Uuid.nil → (t.tip? c).map (·.tipId) ≠ some e.parent := by
    intro child named
    obtain ⟨q, stored, -⟩ := contest.home soundS child
    rw [decided.tip, contends.parent] at named
    rw [← Option.some.inj named, decided.fresh] at stored
    cases stored
  rcases effect.of_contender sound contends with
    ⟨err, same, outcome, refused | ⟨p, planned, now, fits, failed⟩⟩ |
      ⟨p, planned, now, idx, fits, committed, position, outcome, given⟩
  · refine ⟨same, e, ?_⟩
    obtain ⟨p, fits⟩ := contest.exists_fits contends soundS grows
    rcases Store.plan_cases fits with planned | ⟨taken, -⟩ | ⟨c', row', rfl, tip', planned⟩
    · rw [planned] at refused
      cases refused
    · rw [free] at taken
      cases taken
    · obtain rfl : c' = c := Option.some.inj (contest.chain_of_fits contends soundS grows fits)
      obtain rfl : row = row' := Option.some.inj (tip.symm.trans tip')
      rw [planned] at refused
      obtain rfl := Except.error.inj refused
      exact ⟨_, _, contends.entry, outcome, .inl (congrArg some won)⟩
  · refine ⟨same, e, ?_⟩
    rcases (contest.fits_iff contends soundS grows).1 fits with ⟨head, rfl⟩ | ⟨child, q, -, -, rfl⟩
    · rw [Store.commit_of_tip_refused (Store.writeTip_start_of_taken tip)] at failed
      obtain rfl := Except.error.inj failed
      exact ⟨none, true, contends.entry, outcome, .inr ⟨head, rfl, rfl⟩⟩
    · have refused := sound.store.writeTip_of_not_tip planned q.idx (moved child)
      rw [Store.commit_of_tip_refused refused, decided.tip] at failed
      obtain rfl := Except.error.inj failed
      exact ⟨_, _, contends.entry, outcome, .inl rfl⟩
  · exfalso
    obtain ⟨c', v, chain, continues, -⟩ := (sound.store.commit_eq_ok_iff fits).1 committed
    obtain rfl : c = c' := Option.some.inj
      ((contest.chain_of_fits contends soundS grows fits).symm.trans chain)
    rw [Store.Continues] at continues
    split at continues
    · rw [tip] at continues
      cases continues
    · rename_i child
      exact moved (contends.parent ▸ child) continues

end Contest

/-! ## Runs -/

/-- What holds of the appends finished so far, and of the tables. -/
structure Contested (s : Store) (c : ChainName) (parent : Uuid) (ds : List Draft)
    (finished : List Finished) (t : Store) : Prop where
  grows : s.Grows t
  stored : ∀ id, (t.record? id).isSome →
    (s.record? id).isSome ∨ ∃ b ∈ finished, b.outcome = .ok () ∧ b.proposed.id? = some id
  decided : Fair c ds finished → Undecided s t c (Finished.toChain c finished) ∨
    ∃ w losers r, Decided s t c parent (Finished.toChain c finished) w losers r

/-- The identifier of a contender is free until its append is finished. -/
theorem Contested.free (contested : Contested s c parent ds finished t)
    (fair : Fair c ds (finished ++ [a])) (own : a.proposed.chain? = some c)
    (contends : a.proposed.Contends s c parent e) : t.record? e.id = none := by
  have id : a.proposed.id? = some e.id := by rw [Draft.id?, contends.entry]; rfl
  refine Option.not_isSome_iff_eq_none.1 fun taken => ?_
  rcases contested.stored e.id taken with before | ⟨b, member, outcome, same⟩
  · rw [contends.free] at before
    cases before
  · by_cases other : b.proposed.chain? = some c
    · have once := fair.once
      rw [Finished.toChain_append, List.map_append] at once
      refine (List.nodup_append.1 once).2.2 _ (List.mem_map_of_mem (a := b) ?_) _
        (List.mem_map_of_mem (a := a) ?_) (same.trans id.symm)
      · exact List.mem_filter.2 ⟨member, by simpa using other⟩
      · exact List.mem_filter.2 ⟨List.mem_singleton_self a, by simpa using own⟩
    · have entrant := fair.entrants a (by simp) own
      exact fair.others b (by simp [member]) other outcome _ entrant (same.trans id.symm)

namespace Contest

/-- A contender that is finished wins, or has lost. -/
theorem decided_of_own (contest : Contest s c parent ds) (soundS : s.Sound) (sound : τ.Sound t)
    (contested : Contested s c parent ds finished t) (effect : τ.Effect t [a] τ' t')
    (fair : Fair c ds (finished ++ [a])) (own : a.proposed.chain? = some c) :
    ∃ w losers r, Decided s t' c parent (Finished.toChain c finished ++ [a]) w losers r := by
  obtain ⟨e, contends⟩ := contest.contenders _ (fair.entrants a (by simp) own)
  have free := contested.free fair own contends
  rcases contested.decided fair.of_append with undecided | ⟨w, losers, r, decided⟩
  · obtain ⟨r, decided⟩ := contest.wins soundS contested.grows sound contends free undecided effect
    rw [undecided.started]
    exact ⟨a, [], r, decided⟩
  · obtain ⟨rfl, lost⟩ := contest.loses soundS contested.grows sound contends free decided effect
    refine ⟨w, losers ++ [a], r, { decided with contest := ?_, lost := ?_ }⟩
    · rw [decided.contest, List.cons_append]
    · intro b member
      rcases List.mem_append.1 member with earlier | last
      · exact decided.lost b earlier
      · rwa [List.mem_singleton.1 last]

/-- An append to another chain leaves the contest as it is. -/
theorem decided_of_other (contest : Contest s c parent ds) (sound : τ.Sound t)
    (contested : Contested s c parent ds finished t) (effect : τ.Effect t [a] τ' t')
    (fair : Fair c ds finished) (other : a.proposed.chain? ≠ some c) :
    Undecided s t' c (Finished.toChain c finished) ∨
      ∃ w losers r, Decided s t' c parent (Finished.toChain c finished) w losers r := by
  obtain ⟨chain, tip⟩ : t'.ofChain c = t.ofChain c ∧ t'.tip? c = t.tip? c := by
    obtain ⟨d, member⟩ := List.exists_mem_of_ne_nil ds contest.nonempty
    obtain ⟨e, contends⟩ := contest.contenders d member
    obtain ⟨tag, -, rfl⟩ := contends.chain
    exact effect.chain_unchanged sound rfl (by simpa using other)
  rcases contested.decided fair with undecided | ⟨w, losers, r, decided⟩
  · exact .inl ⟨undecided.started, chain.trans undecided.chain, tip.trans undecided.tip⟩
  · exact .inr ⟨w, losers, r, { decided with
      chain := chain.trans decided.chain, tip := by rw [tip, decided.tip] }⟩

theorem step (contest : Contest s c parent ds) (soundS : s.Sound) (sound : τ.Sound t)
    (effect : τ.Effect t added τ' t') (contested : Contested s c parent ds finished t) :
    Contested s c parent ds (finished ++ added) t' where
  grows := contested.grows.trans (effect.grows sound)
  stored := effect.stored_since sound contested.stored
  decided fair := by
    rcases effect.none_or_one with ⟨rfl, rfl⟩ | ⟨a, rfl⟩
    · rw [List.append_nil] at fair ⊢
      exact contested.decided fair
    · rw [Finished.toChain_append]
      by_cases own : a.proposed.chain? = some c
      · rw [show Finished.toChain c [a] = [a] by simp [Finished.toChain, own]]
        exact .inr (contest.decided_of_own soundS sound contested effect fair own)
      · rw [show Finished.toChain c [a] = [] by simp [Finished.toChain, own], List.append_nil]
        exact contest.decided_of_other sound contested effect fair.of_append own

theorem run (contest : Contest s c parent ds) {σ : Scene} (sound : σ.Sound s) (moves : List Move) :
    ∃ t, (σ.run moves).Sound t ∧ Contested s c parent ds (σ.finishedBy moves) t :=
  Scene.run_induction (P := Contested s c parent ds) sound
    ⟨.refl s, fun _ before => .inl before, fun _ => .inl ⟨rfl, rfl, rfl⟩⟩
    (fun _ _ _ _ _ _ soundT effect contested => contest.step sound.store soundT effect contested)
    moves

end Contest

end ChainLog
