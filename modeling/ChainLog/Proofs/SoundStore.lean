/-
# Sound stores

A store is sound when its two tables tell the same story (`Store.Sound`): the records of each
chain are linked in the order in which they are stored, and a chain has a tip row exactly if
it has records, with the last one's identifier, their number and the first one's user.

In a sound store an append has one effect, whatever its look-ups were: a record more at the
end of its chain and the tip row that goes with it (`Store.pushed`).  It has it exactly if its
parent comes last in the chain, or is nil and there is no chain (`Continues`), its identifier
is free, its version can be stored and there is room (`Sound.commit_eq_ok_iff`).  The store
stays sound (`Sound.pushed`).
-/
import ChainLog.Proofs.AppendHalves
import ChainLog.Proofs.LinkedChain

namespace ChainLog

set_option autoImplicit false

/-- The tip row that goes with the records of a chain. -/
structure Tip.Tops (t : Tip) (l : List Record) : Prop where
  nonempty : l ≠ []
  tipId : t.tipId = lastId Uuid.nil l
  length : t.length = Cell.counted l.length
  userId : l.head?.map (·.userId) = some t.userId

namespace Store

/-- The two tables tell the same story. -/
structure Sound (s : Store) : Prop where
  keys : s.KeysHold
  linked : ∀ c, Linked Uuid.nil 0 (s.ofChain c)
  bounded : ∀ c, (s.ofChain c).length ≤ 0x8000000000000000
  absent : ∀ c, s.tip? c = none → s.ofChain c = []
  tops : ∀ c t, s.tip? c = some t → t.Tops (s.ofChain c)
  users : ∀ r ∈ s.records, ∃ u : Int, r.userId = .int u

/-- A record that names `parent` may come next in a chain: it names the tip, or it names nil
and there is no chain. -/
def Continues (s : Store) (c : ChainName) (parent : Uuid) : Prop :=
  if parent = Uuid.nil then s.tip? c = none else (s.tip? c).map (·.tipId) = some parent

instance (s : Store) (c : ChainName) (parent : Uuid) : Decidable (s.Continues c parent) :=
  inferInstanceAs (Decidable (if parent = Uuid.nil then s.tip? c = none
    else (s.tip? c).map (·.tipId) = some parent))

/-- The store with an entry more at the end of a chain. -/
def pushed (s : Store) (e : Entry) (c : ChainName) (version : Cell) (planned now : Time.Instant) :
    Store :=
  ⟨s.records ++ [e.toRecord c version (.int (s.ofChain c).length) now],
    match s.tip? c with
    | none => s.tips ++ [⟨c, .int e.userId, e.id, .int 1, planned⟩]
    | some t => s.tips.map (movedTip c t.tipId e.id planned)⟩

variable {s s' : Store} {e : Entry} {p : Plan} {c d : ChainName} {t u : Tip} {r q : Record}
  {planned now : Time.Instant} {v : Cell} {id parent : Uuid}

theorem sound_empty : Sound empty where
  keys := keysHold_empty
  linked _ := trivial
  bounded _ := Nat.zero_le _
  absent _ _ := rfl
  tops _ _ found := by cases found
  users _ member := by cases member

theorem mem_ofChain : r ∈ s.ofChain c ↔ r ∈ s.records ∧ r.chain = c := by
  simp [ofChain]

/-! ## The last record of a chain -/

/-- A tip row names the last record of its chain. -/
theorem Sound.last_of_tip (sound : s.Sound) (tip : s.tip? c = some t) :
    ∃ init q, s.ofChain c = init ++ [q] ∧ q.id = t.tipId ∧ s.record? t.tipId = some q := by
  have tops := sound.tops c t tip
  obtain ⟨init, q, split⟩ : ∃ init q, s.ofChain c = init ++ [q] :=
    ⟨_, _, (List.dropLast_concat_getLast tops.nonempty).symm⟩
  have named : q.id = t.tipId := by rw [tops.tipId, split, lastId_concat]
  have member : q ∈ s.ofChain c := by rw [split]; simp
  exact ⟨init, q, split, named, (record?_eq_some_iff sound.keys).2 ⟨(mem_ofChain.1 member).1, named⟩⟩

/-- A chain with a record has a tip row. -/
theorem Sound.tip_of_record (sound : s.Sound) (member : r ∈ s.records) :
    ∃ t, s.tip? r.chain = some t := by
  cases tip : s.tip? r.chain with
  | some t => exact ⟨t, rfl⟩
  | none =>
      have within : r ∈ s.ofChain r.chain := mem_ofChain.2 ⟨member, rfl⟩
      rw [sound.absent _ tip] at within
      cases within

/-- The record that a tip row names stands last: the position after its own is the number of
the chain's records. -/
theorem Sound.next_of_tip (sound : s.Sound) (tip : s.tip? c = some t)
    (found : s.record? t.tipId = some q) :
    q.chain = c ∧ q.idx.next? = .ok (.int (s.ofChain c).length) := by
  obtain ⟨init, last, split, -, stored⟩ := sound.last_of_tip tip
  obtain rfl : last = q := Option.some.inj (stored.symm.trans found)
  have linked := sound.linked c
  rw [split, linked_concat, Nat.zero_add] at linked
  have member : last ∈ s.ofChain c := by rw [split]; simp
  refine ⟨(mem_ofChain.1 member).2, ?_⟩
  rw [linked.2.2, split, List.length_append]
  rfl

/-- The length of a chain is the number of its records. -/
theorem Sound.lengthOf (sound : s.Sound) (c : ChainName) :
    s.lengthOf c = .counted (s.ofChain c).length := by
  unfold Store.lengthOf
  cases tip : s.tip? c with
  | none =>
      rw [sound.absent c tip]
      rfl
  | some t => exact (sound.tops c t tip).length

/-- The record that the tip row names is the last one. -/
theorem Sound.tipRecord? (sound : s.Sound) (c : ChainName) :
    s.tipRecord? c = (s.ofChain c).getLast? := by
  unfold Store.tipRecord?
  cases tip : s.tip? c with
  | none =>
      rw [sound.absent c tip]
      rfl
  | some t =>
      obtain ⟨init, q, split, -, stored⟩ := sound.last_of_tip tip
      rw [Option.bind_some, stored, split, List.getLast?_concat]

theorem Sound.tipId? (sound : s.Sound) (c : ChainName) :
    (s.tip? c).map (·.tipId) = (s.ofChain c).getLast?.map (·.id) := by
  cases tip : s.tip? c with
  | none =>
      rw [sound.absent c tip]
      rfl
  | some t =>
      obtain ⟨init, q, split, named, -⟩ := sound.last_of_tip tip
      rw [split, List.getLast?_concat, Option.map_some, Option.map_some, named]

/-- The record at position 0 is the first one. -/
theorem Sound.head? (sound : s.Sound) (c : ChainName) : s.head? c = (s.ofChain c).head? := by
  have linked := sound.linked c
  have both : s.head? c = (s.ofChain c).find? (·.idx.same (.int 0)) := by
    unfold Store.head? ofChain
    rw [List.find?_filter]
    congr 1
    funext r
    simp
  rw [both]
  cases records : s.ofChain c with
  | nil => rfl
  | cons r rest =>
      rw [records] at linked
      rw [List.find?_cons_of_pos (by rw [linked.2.1]; exact Cell.same_refl _)]
      rfl

/-- A chain has a tip row exactly if it has records. -/
theorem Sound.absent_iff (sound : s.Sound) : s.tip? c = none ↔ s.ofChain c = [] := by
  constructor
  · exact sound.absent c
  · intro empty
    cases tip : s.tip? c with
    | none => rfl
    | some t => exact absurd empty (sound.tops c t tip).nonempty

/-- Whoever names another record than the tip does not move it, and is told of it. -/
theorem Sound.writeTip_of_not_tip (sound : s.Sound) (now : Time.Instant) (idx : Cell)
    (moved : (s.tip? c).map (·.tipId) ≠ some e.parent) :
    s.writeTip e now (.extend c idx) =
      .error (.refused (e.forks ((s.tip? c).map (·.tipId))) false) := by
  refine writeTip_extend_of_moved fun u member chain named => moved ?_
  rw [(tip?_eq_some_iff sound.keys).2 ⟨member, chain⟩, ← named]
  rfl

/-- At the end of a chain no key of the records is taken but perhaps the identifier. -/
theorem Sound.apart_iff (sound : s.Sound) (chain : r.chain = c)
    (idx : r.idx = .int (s.ofChain c).length) :
    (∀ q ∈ s.records, ¬ Clash q r) ↔ s.record? r.id = none := by
  rw [record?_eq_none_iff]
  constructor
  · exact fun apart q member same => apart q member (.inl same)
  · rintro free q member (same | ⟨sameChain, sameIdx⟩)
    · exact free q member same
    · have within : q ∈ s.ofChain c := mem_ofChain.2 ⟨member, sameChain.trans chain⟩
      obtain ⟨i, position⟩ := (sound.linked c).idx_int within
      obtain ⟨-, at_i⟩ := (sound.linked c).getElem?_of_idx within position
      have inside : i < (s.ofChain c).length := (List.getElem?_eq_some_iff.1 at_i).1
      rw [position, idx, Cell.same_int, decide_eq_true_eq] at sameIdx
      omega

/-- A plan that fits gives a position. -/
theorem Sound.position (sound : s.Sound) (fits : p.Fits s e) : ∃ idx, p.idx? = .ok idx := by
  cases fits with
  | start => exact ⟨_, rfl⟩
  | @extend q child stored host tag hashable =>
      have member := ((record?_eq_some_iff sound.keys).1 stored).1
      obtain ⟨i, idx⟩ := (sound.linked q.chain).idx_int (mem_ofChain.2 ⟨member, rfl⟩)
      exact ⟨.int (i + 1), by rw [Plan.idx?, idx]; rfl⟩

/-- The look-ups let an entry go on that comes next in its chain. -/
theorem plan_of_continues (fits : p.Fits s e) (chain : p.chain? = some c)
    (continues : s.Continues c e.parent) (free : s.record? e.id = none) : s.plan e = .ok p := by
  refine plan_eq_ok_iff.2 ⟨free, fits, fun d start => ?_⟩
  subst start
  obtain rfl : d = c := Option.some.inj chain
  cases fits with
  | start head named => rwa [Continues, if_pos head] at continues

/-- The position of a record that comes next in its chain. -/
theorem Sound.position_of_continues (sound : s.Sound) (fits : p.Fits s e) (chain : p.chain? = some c)
    (continues : s.Continues c e.parent) : p.idx? = .ok (.int (s.ofChain c).length) := by
  cases fits with
  | start head named =>
      rw [Continues, if_pos head] at continues
      rw [sound.absent c continues]
      rfl
  | @extend q child stored host tag hashable =>
      obtain rfl : q.chain = c := Option.some.inj chain
      rw [Continues, if_neg child] at continues
      obtain ⟨t, tip, named⟩ := Option.map_eq_some_iff.1 continues
      exact (sound.next_of_tip tip (named ▸ stored)).2

/-! ## The store after an append -/

theorem pushed_of_absent (tip : s.tip? c = none) :
    s.pushed e c v planned now =
      ⟨s.records ++ [e.toRecord c v (.int (s.ofChain c).length) now],
        s.tips ++ [⟨c, .int e.userId, e.id, .int 1, planned⟩]⟩ := by
  rw [pushed, tip]

theorem pushed_of_tip (tip : s.tip? c = some t) :
    s.pushed e c v planned now =
      ⟨s.records ++ [e.toRecord c v (.int (s.ofChain c).length) now],
        s.tips.map (movedTip c t.tipId e.id planned)⟩ := by
  rw [pushed, tip]

theorem ofChain_pushed :
    (s.pushed e c v planned now).ofChain d =
      s.ofChain d ++ if c = d then [e.toRecord c v (.int (s.ofChain c).length) now] else [] := by
  simp only [pushed, ofChain, List.filter_append, List.filter_cons, List.filter_nil,
    Entry.toRecord, decide_eq_true_eq]

theorem record?_pushed :
    (s.pushed e c v planned now).record? id =
      (s.record? id).or
        (if e.id = id then some (e.toRecord c v (.int (s.ofChain c).length) now) else none) := by
  simp only [pushed, Store.record?, List.find?_append, List.find?_cons, List.find?_nil,
    Entry.toRecord]
  by_cases same : e.id = id <;> simp [same]

theorem record?_pushed_self (free : s.record? e.id = none) :
    (s.pushed e c v planned now).record? e.id =
      some (e.toRecord c v (.int (s.ofChain c).length) now) := by
  rw [record?_pushed, free, if_pos rfl]
  rfl

/-- Appending to one chain leaves the tip rows of the others. -/
theorem tip?_pushed_of_ne (other : c ≠ d) : (s.pushed e c v planned now).tip? d = s.tip? d := by
  cases tip : s.tip? c with
  | none =>
      rw [pushed_of_absent tip, Store.tip?, List.find?_append]
      simp [other, Store.tip?]
  | some t =>
      rw [pushed_of_tip tip, Store.tip?, tip?_moved]
      cases found : s.tip? d with
      | none => rfl
      | some u =>
          have chain : u.chain = d := by simpa using List.find?_some found
          simp only [Option.map_some, movedTip, chain, Ne.symm other, false_and, if_false]

/-- The tip row that an append leaves. -/
theorem Sound.tip?_pushed (sound : s.Sound) (room : (s.ofChain c).length < 0x8000000000000000) :
    (s.pushed e c v planned now).tip? c =
      some ⟨c, (s.tip? c).elim (.int e.userId) (·.userId), e.id,
        .counted ((s.ofChain c).length + 1), planned⟩ := by
  cases tip : s.tip? c with
  | none =>
      have missing : s.tips.find? (·.chain = c) = none := tip
      rw [pushed_of_absent tip, Store.tip?, List.find?_append, missing, sound.absent c tip]
      simp [Cell.counted]
  | some t =>
      have chain : t.chain = c := by simpa using List.find?_some tip
      rw [pushed_of_tip tip, Store.tip?, tip?_moved, tip]
      simp only [Option.map_some, movedTip, chain, true_and, if_true, Option.elim_some,
        (sound.tops c t tip).length, Cell.increased_counted room]

theorem Sound.keys_pushed (sound : s.Sound) (free : s.record? e.id = none) :
    (s.pushed e c v planned now).KeysHold := by
  have apart : ∀ q ∈ s.records, ¬ Clash q (e.toRecord c v (.int (s.ofChain c).length) now) :=
    (sound.apart_iff (r := e.toRecord c v _ now) rfl rfl).2 free
  have stored := sound.keys.addRecord? (addRecord?_eq_some_iff.2 ⟨apart, rfl⟩)
  refine ⟨stored.records, ?_⟩
  cases tip : s.tip? c with
  | none =>
      rw [pushed_of_absent tip]
      exact (sound.keys.addTip? (addTip?_eq_some_iff.2 ⟨tip?_eq_none_iff.1 tip, rfl⟩)).tips
  | some t =>
      obtain ⟨member, chain⟩ := (tip?_eq_some_iff sound.keys).1 tip
      rw [pushed_of_tip tip]
      exact (sound.keys.moveTip? (moveTip?_eq_some_iff.2 ⟨⟨t, member, chain, rfl⟩, rfl⟩)).tips

/-- A record that may come next in a chain names the last one. -/
theorem Sound.parent_of_continues (sound : s.Sound) (continues : s.Continues c parent) :
    parent = lastId Uuid.nil (s.ofChain c) := by
  unfold Continues at continues
  split at continues
  · rename_i head
    rw [head, sound.absent c continues, lastId_nil]
  · obtain ⟨t, tip, named⟩ := Option.map_eq_some_iff.1 continues
    rw [← named, (sound.tops c t tip).tipId]

theorem Sound.tops_pushed (sound : s.Sound) (room : (s.ofChain c).length < 0x8000000000000000)
    (tip : (s.pushed e c v planned now).tip? c = some t) :
    t.Tops ((s.pushed e c v planned now).ofChain c) := by
  rw [sound.tip?_pushed room] at tip
  obtain rfl := Option.some.inj tip
  rw [ofChain_pushed, if_pos rfl]
  refine ⟨by simp, by simp [Entry.toRecord], by simp, ?_⟩
  cases before : s.tip? c with
  | none => simp [sound.absent c before, Entry.toRecord]
  | some u =>
      rw [List.head?_append, Option.map_or, (sound.tops c u before).userId, Option.elim_some]
      rfl

/-- An append leaves a sound store sound. -/
theorem Sound.pushed (sound : s.Sound) (continues : s.Continues c e.parent)
    (room : (s.ofChain c).length < 0x8000000000000000) (free : s.record? e.id = none) :
    (s.pushed e c v planned now).Sound where
  keys := sound.keys_pushed free
  linked d := by
    rw [ofChain_pushed]
    split
    · rename_i same
      subst same
      exact linked_concat.2
        ⟨sound.linked c, sound.parent_of_continues continues, by simp [Entry.toRecord]⟩
    · rw [List.append_nil]
      exact sound.linked d
  bounded d := by
    rw [ofChain_pushed]
    split
    · rename_i same
      subst same
      simp only [List.length_append, List.length_singleton]
      omega
    · rw [List.append_nil]
      exact sound.bounded d
  absent d missing := by
    by_cases same : c = d
    · subst same
      rw [sound.tip?_pushed room] at missing
      cases missing
    · rw [tip?_pushed_of_ne same] at missing
      rw [ofChain_pushed, if_neg same, List.append_nil]
      exact sound.absent d missing
  tops d t found := by
    by_cases same : c = d
    · subst same
      exact sound.tops_pushed room found
    · rw [tip?_pushed_of_ne same] at found
      rw [ofChain_pushed, if_neg same, List.append_nil]
      exact sound.tops d t found
  users r member := by
    rcases List.mem_append.1 member with old | new
    · exact sound.users r old
    · obtain rfl := List.mem_singleton.1 new
      exact ⟨e.userId, rfl⟩

theorem grows_pushed : s.Grows (s.pushed e c v planned now) := List.prefix_append _ _

/-! ## When an append is made -/

/-- When an append that starts a chain is made in a sound store. -/
theorem Sound.commit_start_iff (sound : s.Sound) (head : e.parent = Uuid.nil) :
    s.commit e (.start (some c)) planned now = .ok s' ↔
      ∃ v, s.Continues c e.parent ∧ s.record? e.id = none ∧ e.version.inTexts = .ok (some v) ∧
        s' = s.pushed e c v planned now := by
  rw [commit_start_eq_ok_iff, Continues, if_pos head]
  by_cases tip : s.tip? c = none
  · have none_yet : (s.ofChain c).length = 0 := by rw [sound.absent c tip]; rfl
    have apart_iff (v : Cell) : (∀ q ∈ s.records, ¬ Clash q (e.toRecord c v (.int 0) now)) ↔
        s.record? e.id = none :=
      sound.apart_iff (c := c) (r := e.toRecord c v (.int 0) now) rfl (by rw [none_yet]; rfl)
    have pushed (v : Cell) : s.pushed e c v planned now = ⟨s.records ++ [e.toRecord c v (.int 0) now],
        s.tips ++ [⟨c, .int e.userId, e.id, .int 1, planned⟩]⟩ := by
      rw [pushed_of_absent tip, none_yet]
      rfl
    simp only [tip, apart_iff, pushed, true_and]
    constructor
    · rintro ⟨v, version, free, same⟩
      exact ⟨v, free, version, same⟩
    · rintro ⟨v, free, version, same⟩
      exact ⟨v, version, free, same⟩
  · simp [tip]

/-- When an append that extends a chain is made in a sound store. -/
theorem Sound.commit_extend_iff (sound : s.Sound) (child : e.parent ≠ Uuid.nil)
    (stored : s.record? e.parent = some q) :
    s.commit e (.extend q.chain q.idx) planned now = .ok s' ↔
      ∃ v, s.Continues q.chain e.parent ∧ (s.ofChain q.chain).length < 0x8000000000000000 ∧
        s.record? e.id = none ∧ e.version.inTexts = .ok (some v) ∧
        s' = s.pushed e q.chain v planned now := by
  obtain ⟨t, tip⟩ := sound.tip_of_record ((record?_eq_some_iff sound.keys).1 stored).1
  obtain ⟨member, chain⟩ := (tip?_eq_some_iff sound.keys).1 tip
  have named_iff : (∃ u ∈ s.tips, u.chain = q.chain ∧ u.tipId = e.parent) ↔ t.tipId = e.parent := by
    constructor
    · rintro ⟨u, other, sameChain, named⟩
      rwa [sound.keys.tip_unique member other (chain.trans sameChain.symm)]
    · exact fun named => ⟨t, member, chain, named⟩
  have continues_iff : s.Continues q.chain e.parent ↔ t.tipId = e.parent := by
    simp [Continues, child, tip]
  have apart_iff (v : Cell) :
      (∀ p ∈ s.records, ¬ Clash p (e.toRecord q.chain v (.int (s.ofChain q.chain).length) now)) ↔
        s.record? e.id = none :=
    sound.apart_iff (r := e.toRecord q.chain v _ now) rfl rfl
  rw [commit_extend_eq_ok_iff, named_iff]
  simp only [continues_iff]
  constructor
  · rintro ⟨named, i, v, next, parameter, version, apart, rfl⟩
    rw [(sound.next_of_tip tip (named ▸ stored)).2] at next
    obtain rfl := (Except.ok.inj next).symm
    have word := Cell.isWord_of_parameter parameter
    refine ⟨v, named, by have := word.2; omega, (apart_iff v).1 apart, version, ?_⟩
    simp [pushed_of_tip tip, named]
  · rintro ⟨v, named, room, free, version, rfl⟩
    have word : IsWord (s.ofChain q.chain).length := ⟨by omega, by omega⟩
    refine ⟨named, _, v, (sound.next_of_tip tip (named ▸ stored)).2, Cell.parameter_int word, version,
      (apart_iff v).2 free, ?_⟩
    simp [pushed_of_tip tip, named]

/-- Whether an append is made in a sound store, and what it makes of it. -/
theorem Sound.commit_eq_ok_iff (sound : s.Sound) (fits : p.Fits s e) :
    s.commit e p planned now = .ok s' ↔
      ∃ c v, p.chain? = some c ∧ s.Continues c e.parent ∧
        (s.ofChain c).length < 0x8000000000000000 ∧ s.record? e.id = none ∧
        e.version.inTexts = .ok (some v) ∧ s' = s.pushed e c v planned now := by
  cases fits with
  | @start chain head named =>
      cases chain with
      | none => simp [commit, writeTip, Plan.chain?]
      | some c =>
          rw [sound.commit_start_iff head]
          constructor
          · rintro ⟨v, continues, others⟩
            have tip : s.tip? c = none := by rwa [Continues, if_pos head] at continues
            have room : (s.ofChain c).length < 0x8000000000000000 := by
              rw [sound.absent c tip]
              decide
            exact ⟨c, v, rfl, continues, room, others⟩
          · rintro ⟨_, v, chain, continues, -, others⟩
            obtain rfl := Option.some.inj chain
            exact ⟨v, continues, others⟩
  | @extend q child stored host tag hashable =>
      rw [sound.commit_extend_iff child stored]
      constructor
      · rintro ⟨v, made⟩
        exact ⟨q.chain, v, rfl, made⟩
      · rintro ⟨_, v, chain, made⟩
        obtain rfl := Option.some.inj chain
        exact ⟨v, made⟩

/-- Whatever an append does, the store stays sound and keeps its records. -/
theorem Sound.commit (sound : s.Sound) (fits : p.Fits s e)
    (committed : s.commit e p planned now = .ok s') : s'.Sound ∧ s.Grows s' := by
  obtain ⟨c, v, -, continues, room, free, -, rfl⟩ := (sound.commit_eq_ok_iff fits).1 committed
  exact ⟨sound.pushed continues room free, grows_pushed⟩

end Store

end ChainLog
