/-
# Going on from the tip

Whoever asks for the tip of a chain and names it as the parent of a valid record can append that
record: it comes next in the chain and is the tip from then on (`chain_goes_on_from_tip`).

There is one exception.  Nothing keeps a record from having the nil identifier, and nil as a parent
says that a record is the first of its chain.  A chain whose tip has the nil identifier has ended:
whoever names its tip is refused as if to start it once more (`nil_tip_ends_chain`).
-/
import ChainLog.Proofs.Contention

namespace ChainLog

set_option autoImplicit false

variable {s : Store} {db : Database} {d : Draft} {e : Entry} {c : ChainName} {q : Record} {t : Tip}
  {n : Int}

/-! ## The tip that is reported -/

/-- A chain that has a tip row has a last record, which is the one that is reported. -/
theorem Store.Sound.exists_tipRecord (sound : s.Sound) (existing : s.tip? c ≠ none) :
    ∃ t q, s.tip? c = some t ∧ s.tipRecord? c = some q ∧ t.tipId = q.id := by
  obtain ⟨t, tip⟩ := Option.ne_none_iff_exists'.1 existing
  obtain ⟨init, q, split, named, -⟩ := sound.last_of_tip tip
  refine ⟨t, q, tip, ?_, named.symm⟩
  rw [sound.tipRecord?, split, List.getLast?_concat]

/-- A length that is an integer is the number of the records, and leaves room for one more. -/
theorem Store.Sound.length_of_int (sound : s.Sound) (length : s.lengthOf c = .int n) :
    n = (s.ofChain c).length ∧ (s.ofChain c).length < 0x8000000000000000 := by
  rw [sound.lengthOf] at length
  unfold Cell.counted at length
  split at length
  · rename_i room
    exact ⟨(Cell.int.inj length).symm, room⟩
  · cases length

/-! ## Naming the tip -/

/-- A draft contends alone for the place after the tip. -/
theorem Draft.Contends.alone (contends : d.Contends s c q.id e) (tip : s.tip? c = some t)
    (named : t.tipId = q.id) (child : q.id ≠ Uuid.nil)
    (room : (s.ofChain c).length < 0x8000000000000000) : Contest s c q.id [d] where
  nonempty := List.cons_ne_nil d []
  continues := by
    rw [Store.Continues, if_neg child, tip, Option.map_some, named]
  room := room
  contenders := by
    intro other member
    obtain rfl := List.mem_singleton.1 member
    exact ⟨e, contends⟩
  apart := by simp

/-- A valid draft that names the tip is appended, and is the tip then. -/
theorem Store.Sound.append_of_tip_named (sound : s.Sound) (found : db.store = .ok s)
    (new : d.origin = .new) (contends : d.Contends s c q.id e) (tip : s.tip? c = some t)
    (named : t.tipId = q.id) (child : q.id ≠ Uuid.nil)
    (room : (s.ofChain c).length < 0x8000000000000000) (now : Time.Instant) :
    ∃ db' d' log s' v, d.append db now = (db', d', log, .ok ()) ∧
      d'.idx = .int (s.ofChain c).length ∧ db'.store = .ok s' ∧
        e.version.inTexts = .ok (some v) ∧
          s'.tipRecord? c = some (e.toRecord c v (.int (s.ofChain c).length) now) := by
  have contest := contends.alone tip named child room
  have grows := Store.Grows.refl s
  obtain ⟨p, fits⟩ := contest.exists_fits contends sound grows
  have chain := contest.chain_of_fits contends sound grows fits
  have continues : s.Continues c e.parent := by
    rw [contends.parent]
    exact contest.continues
  have planned := plan_of_continues fits chain continues contends.free
  have position := sound.position_of_continues fits chain continues
  obtain ⟨v, version⟩ := contends.version
  have committed : s.commit e p now now = .ok (s.pushed e c v now now) := by
    apply (sound.commit_eq_ok_iff fits).2
    exact ⟨c, v, chain, continues, room, contends.free, version, rfl⟩
  rcases settled : d.settle with ⟨d', invalid | entry⟩
  · have settles := contends.entry
    rw [Draft.settled?, settled] at settles
    cases settles
  · obtain rfl : entry = e :=
      Option.some.inj ((Draft.settled?_of_settle settled).symm.trans contends.entry)
    have dated : ∀ value, d'.createdAt ≠ .assigned value := by
      intro value assigned
      have kept := (Draft.settle_keeps (d := d)).2
      rw [settled] at kept
      exact contends.dated value (kept.symm.trans assigned)
    have made : d'.commit s ⟨entry, p, now⟩ now = .ok (s.pushed entry c v now now) := by
      rw [Draft.commit_of_dated dated]
      exact committed
    obtain ⟨idx, log, next, appended⟩ := Draft.append_of_made new found settled planned made
    obtain rfl := Except.ok.inj (next.symm.trans position)
    refine ⟨_, _, log, _, v, appended, rfl, Database.store_withStore found, version, ?_⟩
    have after : (s.pushed entry c v now now).Sound := sound.pushed continues room contends.free
    rw [after.tipRecord?, Store.ofChain_pushed, if_pos rfl, List.getLast?_concat]

/-- A valid draft that names nil where there is a chain is refused as a fork from its tip. -/
theorem Store.append_of_nil_named (found : db.store = .ok s) (kept : d.origin ≠ .lost)
    (contends : d.Contends s c Uuid.nil e) (tip : s.tip? c = some t) (now : Time.Instant) :
    ∃ d', d.append db now =
      (db, d', (AppendError.refused (e.forks (some t.tipId)) false).log e,
        .error (.refused (e.forks (some t.tipId)) false)) := by
  obtain ⟨tag, text, rfl⟩ := contends.chain
  have refused : s.plan e = .error (.refused (e.forks (some t.tipId)) false) := by
    have free := contends.free
    have head := contends.parent
    simp only [plan, free, head, planStart, text, chainNamed_text, tip]
    simp
  rcases settled : d.settle with ⟨d', invalid | entry⟩
  · have settles := contends.entry
    rw [Draft.settled?, settled] at settles
    cases settles
  · obtain rfl : entry = e :=
      Option.some.inj ((Draft.settled?_of_settle settled).symm.trans contends.entry)
    exact ⟨d', Draft.append_of_refused now kept found settled refused⟩

/-! ## In every reachable state -/

/-- **A chain goes on from its tip.**  In every reachable state, whatever identifiers the records
have, a chain of a length that is an integer reports a tip.  A valid draft that was never stored
and names this tip as its parent is appended at the position after it, and is the tip then; only
if the tip has the nil identifier is every such draft refused. -/
theorem chain_goes_on_from_tip (stamp : Option Bool) (moves : List Move) {s : Store}
    {c : ChainName} {n : Int}
    (found : ((Scene.opening stamp).run moves).database.store = .ok s)
    (existing : s.tip? c ≠ none) (length : s.lengthOf c = .int n) :
    ∃ q, s.tipRecord? c = some q ∧
      ∀ (d : Draft) (e : Entry) (now : Time.Instant), d.origin = .new → d.Contends s c q.id e →
        if q.id = Uuid.nil then
          (d.append ((Scene.opening stamp).run moves).database now).2.2.2 =
            .error (.refused (e.forks (some q.id)) false)
        else
          ∃ db' d' log s' v,
            d.append ((Scene.opening stamp).run moves).database now = (db', d', log, .ok ()) ∧
              d'.idx = .int n ∧ db'.store = .ok s' ∧ e.version.inTexts = .ok (some v) ∧
                s'.tipRecord? c = some (e.toRecord c v (.int n) now) := by
  obtain ⟨s', sound⟩ := Scene.run_sound (Scene.sound_opening stamp) moves
  obtain rfl : s' = s := Except.ok.inj (sound.found.symm.trans found)
  obtain ⟨t, q, tip, reported, named⟩ := sound.store.exists_tipRecord existing
  obtain ⟨rfl, room⟩ := sound.store.length_of_int length
  refine ⟨q, reported, ?_⟩
  intro d e now new contends
  split
  · rename_i ended
    rw [ended] at contends
    have kept : d.origin ≠ .lost := by simp [new]
    obtain ⟨d', refused⟩ := Store.append_of_nil_named found kept contends tip now
    rw [refused, named]
  · rename_i child
    exact sound.store.append_of_tip_named found new contends tip named child room now

/-- A record that was refused as a fork names the tip instead, and is appended. -/
theorem chain_goes_on_from_tip_of_retry :
    let σ := (Scene.opening none).run
      [.look ⟨.numbered 1 0 "history" (.text "v0"), rfl⟩ default, .write 0 default,
        .look ⟨.numbered 2 1 "history" (.text "v0"), rfl⟩ default, .write 0 default]
    let stale := Draft.numbered 3 1 "history" (.text "v0")
    let retry := (stale.append σ.database default).2.1.set (.uuid (.ofNat 2)) .parent
    (stale.append σ.database default).2.2.2.isOk = false ∧
      ∃ db d log, retry.append σ.database default = (db, d, log, .ok ()) ∧ d.idx = .int 2 := by
  intro σ stale retry
  refine ⟨rfl, ?_⟩
  let c : ChainName := ⟨.ofNat 7, .text "history"⟩
  let s : Store :=
    ⟨[⟨.ofNat 1, c, Uuid.nil, .int 0, .text "v0", [], .int 0, .int 0, default⟩,
      ⟨.ofNat 2, c, .ofNat 1, .int 0, .text "v0", [], .int 0, .int 1, default⟩],
      [⟨c, .int 0, .ofNat 2, .int 2, default⟩]⟩
  let e : Entry := ⟨.ofNat 3, .ofNat 7, .text "history", .ofNat 2, 0, .text "v0", [], 0⟩
  have found : σ.database.store = .ok s := rfl
  have undated : retry.createdAt = .pending := rfl
  have contends : retry.Contends s c (.ofNat 2) e :=
    ⟨rfl, ⟨"history", rfl, rfl⟩, rfl, by decide, ⟨_, rfl⟩, by simp [undated]⟩
  obtain ⟨q, reported, goes_on⟩ := chain_goes_on_from_tip (c := c) none _ found (by decide) rfl
  obtain rfl := Option.some.inj reported
  have made := goes_on retry e default rfl contends
  rw [if_neg (by decide)] at made
  obtain ⟨db, d, log, s', v, appended, idx, -⟩ := made
  exact ⟨db, d, log, appended, idx⟩

/-- A record of the nil identifier starts a chain, and no record can follow it: the next one
names it, and is refused for naming nothing. -/
theorem nil_tip_ends_chain :
    let c : ChainName := ⟨.ofNat 7, .text "history"⟩
    let σ := (Scene.opening none).run
      [.look ⟨.numbered 0 0 "history" (.text "v0"), rfl⟩ default, .write 0 default]
    let d := Draft.numbered 1 0 "history" (.text "v0")
    ∃ s q e, σ.database.store = .ok s ∧ s.tipRecord? c = some q ∧ s.lengthOf c = .int 1 ∧
      d.Contends s c q.id e ∧
      (d.append σ.database default).2.2.2 = .error (.refused (e.forks (some q.id)) false) := by
  intro c σ d
  refine ⟨_, _, _, rfl, rfl, rfl, ?_, rfl⟩
  exact ⟨rfl, ⟨"history", rfl, rfl⟩, rfl, by decide, ⟨_, rfl⟩, by simp [d, Draft.numbered]⟩

end ChainLog
