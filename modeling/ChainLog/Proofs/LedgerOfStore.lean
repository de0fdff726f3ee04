/-
# The ledger of a sound store

The two tables of a sound store hold one ledger (`Store.ledger`): what is looked up in either
of them is what the lists say, and an append that is made is a record more in the list of its
chain (`Sound.ledger_pushed`).
-/
import ChainLog.Proofs.ChainReading
import ChainLog.Proofs.Ledger

namespace ChainLog

set_option autoImplicit false

/-- The records of each chain that has a tip row. -/
def Store.ledger (s : Store) : Ledger := ⟨s.tips.map fun t => (t.chain, s.ofChain t.chain)⟩

variable {s : Store} {e : Entry} {c : ChainName} {r : Record} {t : Tip} {planned now : Time.Instant}
  {v : Cell} {id : Uuid}

namespace Store

/-! ## Look-ups -/

theorem Sound.log_ledger (sound : s.Sound) (c : ChainName) : s.ledger.log c = s.ofChain c := by
  unfold Ledger.log ledger
  rw [List.find?_map]
  cases tip : s.tip? c with
  | none =>
      have missing : s.tips.find? ((fun entry => decide (entry.1 = c)) ∘
          fun t => (t.chain, s.ofChain t.chain)) = none := tip
      rw [missing, sound.absent c tip]
      rfl
  | some t =>
      have found : s.tips.find? ((fun entry => decide (entry.1 = c)) ∘
          fun t => (t.chain, s.ofChain t.chain)) = some t := tip
      obtain ⟨-, chain⟩ := (tip?_eq_some_iff sound.keys).1 tip
      rw [found, ← chain]
      rfl

theorem Sound.holder?_ledger (sound : s.Sound) (id : Uuid) :
    s.ledger.holder? id = (s.record? id).map (·.chain) := by
  unfold Ledger.holder? ledger
  rw [List.find?_map, Option.map_map]
  cases found : s.tips.find? ((fun entry : ChainName × List Record => entry.2.any (·.id = id)) ∘
      fun t => (t.chain, s.ofChain t.chain)) with
  | none =>
      cases stored : s.record? id with
      | none => rfl
      | some r =>
          obtain ⟨member, same⟩ := (record?_eq_some_iff sound.keys).1 stored
          obtain ⟨t, tip⟩ := sound.tip_of_record member
          obtain ⟨row, chain⟩ := (tip?_eq_some_iff sound.keys).1 tip
          have missing := List.find?_eq_none.1 found t row
          refine absurd (List.any_eq_true.2 ⟨r, ?_, by simpa using same⟩) missing
          exact mem_ofChain.2 ⟨member, chain.symm⟩
  | some t =>
      have holds := List.find?_some found
      rw [Function.comp_apply] at holds
      obtain ⟨r, within, same⟩ := List.any_eq_true.1 holds
      obtain ⟨member, chain⟩ := mem_ofChain.1 within
      rw [(record?_eq_some_iff sound.keys).2 ⟨member, by simpa using same⟩]
      exact congrArg some chain.symm

theorem Sound.record?_ledger (sound : s.Sound) (id : Uuid) : s.ledger.record? id = s.record? id := by
  unfold Ledger.record?
  rw [sound.holder?_ledger]
  cases stored : s.record? id with
  | none => rfl
  | some r =>
      obtain ⟨member, same⟩ := (record?_eq_some_iff sound.keys).1 stored
      rw [Option.map_some, Option.bind_some, sound.log_ledger]
      cases found : (s.ofChain r.chain).find? (·.id = id) with
      | none =>
          have missing := List.find?_eq_none.1 found r (mem_ofChain.2 ⟨member, rfl⟩)
          exact absurd (by simpa using same) missing
      | some q =>
          have stored' := (record?_eq_some_iff sound.keys).2
            ⟨(mem_ofChain.1 (List.mem_of_find?_eq_some found)).1, by simpa using List.find?_some found⟩
          rw [← stored, stored']

/-! ## Appends -/

/-- Pushing to a chain of a list of chains. -/
theorem pushTo_map {logs : ChainName → List Record} {tips : List Tip}
    (apart : tips.Pairwise fun a b => a.chain ≠ b.chain) :
    Ledger.pushTo c r (tips.map fun t => (t.chain, logs t.chain)) =
      tips.map (fun t => (t.chain, logs t.chain ++ if c = t.chain then [r] else [])) ++
        if (tips.find? (·.chain = c)).isSome then [] else [(c, [r])] := by
  induction tips with
  | nil => rfl
  | cons t tips ih =>
      obtain ⟨first, rest⟩ := List.pairwise_cons.1 apart
      simp only [List.map_cons, Ledger.pushTo]
      by_cases here : t.chain = c
      · have others : ∀ u ∈ tips, (u.chain, logs u.chain) =
            (u.chain, logs u.chain ++ if c = u.chain then [r] else []) := by
          intro u member
          rw [if_neg (here ▸ first u member), List.append_nil]
        rw [if_pos here, List.map_congr_left others]
        simp [here]
      · rw [if_neg here, ih rest]
        simp [here, Ne.symm here]

theorem Sound.ledger_pushed (sound : s.Sound) :
    (s.pushed e c v planned now).ledger =
      s.ledger.push c (e.toRecord c v (.int (s.ofChain c).length) now) := by
  unfold ledger Ledger.push
  rw [pushTo_map sound.keys.tips]
  simp only [Ledger.mk.injEq, ofChain_pushed]
  cases tip : s.tip? c with
  | none =>
      have missing : s.tips.find? (·.chain = c) = none := tip
      rw [pushed_of_absent tip, missing, List.map_append]
      simp [sound.absent c tip]
  | some t =>
      have found : s.tips.find? (·.chain = c) = some t := tip
      rw [pushed_of_tip tip, found, List.map_map]
      simp only [Option.isSome_some, if_true, List.append_nil]
      refine List.map_congr_left fun u _ => ?_
      simp only [Function.comp_apply, movedTip_chain]

/-- A ledger's refusals, asked of the tables. -/
theorem Sound.refusal?_ledger (sound : s.Sound) (e : Entry) (c : ChainName) :
    s.ledger.refusal? e c =
      let tip := (s.tip? c).map (·.tipId)
      if (s.record? e.id).isSome then some (.conflict e.id)
      else if e.parent = Uuid.nil then tip.map fun id => e.forks (some id)
      else
        match s.record? e.parent with
        | none => some (.orphan e.id e.parent)
        | some q =>
            if q.chain ≠ c then some (e.forks none)
            else if tip = some e.parent then none
            else some (e.forks tip) := by
  unfold Ledger.refusal?
  rw [sound.log_ledger, sound.holder?_ledger, sound.holder?_ledger, ← sound.tipId?, Option.isSome_map]
  cases s.record? e.parent <;> rfl

/-- The parent is of the chain that the entry names. -/
theorem same_chain_iff {tag : String} (text : e.tag = .text tag) :
    (r.chain.host = e.host ∧ e.tag.equalsCell r.chain.tag = true) ↔ r.chain = ⟨e.host, .text tag⟩ := by
  obtain ⟨host, label⟩ := r.chain
  rw [text]
  simp [Value.equalsCell]

/-- An entry that the ledger refuses is refused by the look-ups, or by the condition on the tip
row. -/
theorem Sound.refused_of_ledger {tag : String} (sound : s.Sound) (text : e.tag = .text tag)
    {refusal : Refusal} (h : s.ledger.refusal? e ⟨e.host, .text tag⟩ = some refusal) :
    s.plan e = .error (.refused refusal false) ∨
      ∃ p, s.plan e = .ok p ∧
        ∀ planned now, s.commit e p planned now = .error (.refused refusal false) := by
  rw [sound.refusal?_ledger] at h
  cases taken : s.record? e.id with
  | some q =>
      simp only [taken, Option.isSome_some, if_true, Option.some.injEq] at h
      exact .inl (by rw [plan_of_stored taken, h])
  | none =>
      simp only [taken, Option.isSome_none, Bool.false_eq_true, if_false] at h
      by_cases head : e.parent = Uuid.nil
      · simp only [head, if_true, Option.map_map] at h
        obtain ⟨t, tip, rfl⟩ := Option.map_eq_some_iff.1 h
        refine .inl ?_
        simp only [plan, taken, Option.isSome_none, Bool.false_eq_true, if_false, head, if_true,
          planStart, text, chainNamed_text, tip]
        rfl
      · simp only [head, if_false] at h
        cases stored : s.record? e.parent with
        | none =>
            simp only [stored, Option.some.injEq] at h
            refine .inl ?_
            simp [plan, taken, head, planExtension, stored, h]
        | some q =>
            simp only [stored] at h
            by_cases same : q.chain = ⟨e.host, .text tag⟩
            · simp only [same, ne_eq, not_true_eq_false, if_false] at h
              split at h
              · cases h
              · rename_i moved
                obtain rfl := Option.some.inj h
                obtain ⟨host, equal⟩ := (same_chain_iff text).2 same
                have fits : (Plan.extend q.chain q.idx).Fits s e :=
                  .extend head stored host equal (by rw [text]; rfl)
                refine .inr ⟨_, plan_eq_ok_iff.2 ⟨taken, fits, fun c start => by cases start⟩, ?_⟩
                intro planned now
                rw [← same] at moved ⊢
                exact commit_of_tip_refused (sound.writeTip_of_not_tip planned q.idx moved)
            · simp only [ne_eq, same, not_false_eq_true, if_true, Option.some.injEq] at h
              refine .inl ?_
              have other := mt (same_chain_iff text).1 same
              simp [plan, taken, head, planExtension, stored, other, h]

/-- An entry that the ledger does not refuse comes next in its chain. -/
theorem Sound.continues_of_ledger {tag : String} (sound : s.Sound) (text : e.tag = .text tag)
    (h : s.ledger.refusal? e ⟨e.host, .text tag⟩ = none) :
    s.record? e.id = none ∧ s.Continues ⟨e.host, .text tag⟩ e.parent ∧
      ∃ p : Plan, p.Fits s e ∧ p.chain? = some ⟨e.host, .text tag⟩ := by
  rw [sound.refusal?_ledger] at h
  unfold Continues
  cases taken : s.record? e.id with
  | some q => simp [taken] at h
  | none =>
      simp only [taken, Option.isSome_none, Bool.false_eq_true, if_false] at h
      by_cases head : e.parent = Uuid.nil
      · simp only [head, if_true, Option.map_map, Option.map_eq_none_iff] at h ⊢
        exact ⟨trivial, h, _, .start head (by rw [text, chainNamed_text]), rfl⟩
      · simp only [head, if_false] at h ⊢
        cases stored : s.record? e.parent with
        | none => simp [stored] at h
        | some q =>
            simp only [stored] at h
            split at h
            · cases h
            · rename_i same
              rw [ne_eq, Decidable.not_not] at same
              obtain ⟨host, equal⟩ := (same_chain_iff text).2 same
              split at h
              · rename_i tip
                exact ⟨trivial, tip, _, .extend head stored host equal (by rw [text]; rfl),
                  congrArg some same⟩
              · cases h

/-- And it is appended. -/
theorem Sound.made_of_ledger {tag version : String} (sound : s.Sound) (text : e.tag = .text tag)
    (storable : e.version = .text version)
    (room : (s.ofChain ⟨e.host, .text tag⟩).length < 0x8000000000000000)
    (h : s.ledger.refusal? e ⟨e.host, .text tag⟩ = none) :
    ∃ p, s.plan e = .ok p ∧ p.idx? = .ok (.int (s.ofChain ⟨e.host, .text tag⟩).length) ∧
      ∀ planned now, s.commit e p planned now =
        .ok (s.pushed e ⟨e.host, .text tag⟩ (.text version) planned now) := by
  obtain ⟨free, continues, p, fits, chain⟩ := sound.continues_of_ledger text h
  refine ⟨p, plan_of_continues fits chain continues free,
    sound.position_of_continues fits chain continues, fun planned now => ?_⟩
  exact (sound.commit_eq_ok_iff fits).2
    ⟨_, _, chain, continues, room, free, by rw [storable]; rfl, rfl⟩

/-! ## Reading on from a record -/

/-- Where the tables let a reading start is where the list goes on. -/
theorem Sound.startAfter_ledger (sound : s.Sound) (c : ChainName) (id : Uuid) :
    (∃ missing, s.ledger.since c id = .error missing ∧
        s.startAfter c id = .error (.absent missing)) ∨
      ∃ p : Nat, s.ledger.since c id = .ok ((s.ofChain c).drop p) ∧
        s.startAfter c id = .ok (.int p) := by
  unfold Ledger.since startAfter
  rw [sound.log_ledger]
  by_cases empty : s.ofChain c = []
  · rw [sound.absent_iff.2 empty, if_pos empty]
    exact .inl ⟨_, rfl, rfl⟩
  · obtain ⟨t, tip⟩ := Option.ne_none_iff_exists'.1 (mt sound.absent_iff.1 empty)
    simp only [tip, empty, if_false, Option.isNone_some, Bool.false_eq_true]
    by_cases head : id = Uuid.nil
    · rw [if_pos head, if_pos head]
      exact .inr ⟨0, rfl, rfl⟩
    · rw [if_neg head, if_neg head]
      -- Whoever has the identifier in this chain is the record that is stored under it.
      have named {q : Record} (within : q ∈ s.ofChain c) (same : q.id = id) :
          s.record? id = some q ∧ q.chain = c :=
        have stored := (record?_eq_some_iff sound.keys).2 ⟨(mem_ofChain.1 within).1, same⟩
        ⟨stored, (mem_ofChain.1 within).2⟩
      cases found : (s.ofChain c).findIdx? (·.id = id) with
      | none =>
          have nowhere := List.findIdx?_eq_none_iff.1 found
          refine .inl ⟨_, rfl, ?_⟩
          cases stored : s.record? id with
          | none => rfl
          | some q =>
              obtain ⟨member, same⟩ := (record?_eq_some_iff sound.keys).1 stored
              have other : q.chain ≠ c := by
                intro chain
                have differs := nowhere q (mem_ofChain.2 ⟨member, chain⟩)
                simp [same] at differs
              simp [other]
      | some i =>
          obtain ⟨inside, holds, -⟩ := List.findIdx?_eq_some_iff_getElem.1 found
          obtain ⟨stored, chain⟩ := named (List.getElem_mem inside) (by simpa using holds)
          refine .inr ⟨i + 1, rfl, ?_⟩
          have idx := (sound.linked c).idx_of_getElem? (List.getElem?_eq_getElem inside)
          simp only [stored, chain, if_true, idx, Cell.next?, Nat.zero_add]
          rfl

/-! ## Chains by owner -/

theorem Sound.ownedBy_ledger (sound : s.Sound) (user : Option Cell) :
    s.ledger.ownedBy user = (s.ownedBy user).map fun t => (t.chain, s.ofChain t.chain) := by
  unfold Ledger.ownedBy ledger ownedBy
  rw [List.filter_map]
  congr 1
  refine List.filter_congr fun t member => ?_
  have tops := sound.tops _ t ((tip?_eq_some_iff sound.keys).2 ⟨member, rfl⟩)
  obtain ⟨r, first, owner⟩ := Option.map_eq_some_iff.1 tops.userId
  simp only [Function.comp_apply, first, Option.any_some, owner]

end Store

theorem groupBy_map {α β κ : Type} [DecidableEq κ] (key : β → κ) (f : α → β) (l : List α) :
    groupBy key (l.map f) = (groupBy (key ∘ f) l).map fun g => (g.1, g.2.map f) := by
  unfold groupBy
  rw [List.map_map, List.map_map]
  refine List.map_congr_left fun k _ => ?_
  simp only [Function.comp_apply, List.filter_map]
  rfl

theorem mem_of_groupBy {α κ : Type} [DecidableEq κ] {key : α → κ} {l : List α} {g : κ × List α}
    {a : α} (group : g ∈ groupBy key l) (member : a ∈ g.2) : a ∈ l := by
  obtain ⟨k, -, rfl⟩ := List.mem_map.1 group
  exact (List.mem_filter.1 member).1

/-- The status of a user is told alike by the tip rows and by the lists. -/
theorem Store.Sound.status_ledger (sound : s.Sound) {db : Database} (found : db.store = .ok s)
    (userId : Value) : db.status userId = (s.ledger.status userId).mapError .parameter := by
  unfold Database.status Database.ownedBy Ledger.status
  rw [found]
  cases userId.inNumbers with
  | error cause => rfl
  | ok user =>
      refine congrArg Except.ok ?_
      show _ = List.map _ (groupBy _ (s.ledger.ownedBy user))
      rw [sound.ownedBy_ledger, groupBy_map, List.map_map]
      refine List.map_congr_left fun g group => ?_
      simp only [Function.comp_apply, List.map_map, Prod.mk.injEq, true_and]
      refine List.map_congr_left fun t member => ?_
      have row : t ∈ s.tips := (List.mem_filter.1 (mem_of_groupBy group member)).1
      rw [(sound.tops _ t ((tip?_eq_some_iff sound.keys).2 ⟨row, rfl⟩)).tipId]
      rfl

end ChainLog
