/-
# Forks are final

Once an append has been refused as a fork, no append to the same host and tag that names the same
parent is ever made again, whatever is appended in between (`forks_are_final`).

The reason is a property of the tables that no append can undo (`Store.Closed`): the chain has its
head, or the parent is a record of another chain, or it is not the last record of its own.  The
last of these lasts because a tip only ever moves to an identifier that was free, so that it never
comes back to a record that it has left (`Store.Sound.never_last_again`).
-/
import ChainLog.Proofs.JustifiedRefusals

namespace ChainLog

set_option autoImplicit false

/-- Nobody comes next behind the parent any more, in the chain of this host and tag. -/
inductive Store.Closed (s : Store) (host : Uuid) (tag : Value) (parent : Uuid) : Prop
  /-- The chain has its head, if the tag is a value to the tables at all. -/
  | headed (head : parent = Uuid.nil)
      (started : ∀ c, chainNamed host tag = .ok (some c) → s.tip? c ≠ none) : Closed s host tag parent
  /-- The parent is stored.  If that is in this chain, it is not the tip. -/
  | passed {q : Record} (child : parent ≠ Uuid.nil) (stored : s.record? parent = some q)
      (moved : q.chain.host = host → tag.equalsCell q.chain.tag = true →
        (s.tip? q.chain).map (·.tipId) ≠ some parent) : Closed s host tag parent

variable {s s' : Store} {e : Entry} {p : Plan} {q : Record} {tip : Option Uuid} {byKey : Bool}
  {host id parent : Uuid} {tag : Value} {planned now : Time.Instant} {σ σ' : Scene}
  {added finished : List Finished} {a : Finished} {d : Draft} {pending : Pending}

namespace Store

/-! ## Closed for good -/

/-- Whoever is a fork finds its place closed. -/
theorem Forks.closed (forks : s.Forks e tip byKey) : s.Closed e.host e.tag e.parent := by
  have taken {c : ChainName} {t : Tip} (named : chainNamed e.host e.tag = .ok (some c))
      (there : s.tip? c = some t) : ∀ d, chainNamed e.host e.tag = .ok (some d) → s.tip? d ≠ none := by
    intro d again
    obtain rfl := Option.some.inj (Except.ok.inj (named.symm.trans again))
    rw [there]
    exact Option.some_ne_none t
  cases forks with
  | started head named there => exact .headed head (taken named there)
  | overtaken head named there => exact .headed head (taken named there)
  | nameless head named =>
      refine .headed head fun c again => ?_
      cases named.symm.trans again
  | elsewhere child stored other =>
      exact .passed child stored fun host tag => absurd ⟨host, tag⟩ other
  | passed child stored host tag there moved =>
      refine .passed child stored fun _ _ named => moved ?_
      rw [there] at named
      exact Option.some.inj named

/-- A record that is not the last of its chain is never the last one again: those that come later
have other identifiers. -/
theorem Sound.never_last_again (sound : s.Sound) (later : s'.Sound) (grows : s.Grows s')
    (stored : s.record? q.id = some q) (moved : (s.tip? q.chain).map (·.tipId) ≠ some q.id) :
    (s'.tip? q.chain).map (·.tipId) ≠ some q.id := by
  obtain ⟨more, split⟩ := grows.ofChain q.chain
  have member : q ∈ s.ofChain q.chain :=
    mem_ofChain.2 ⟨((record?_eq_some_iff sound.keys).1 stored).1, rfl⟩
  rw [sound.tipId?] at moved
  rw [later.tipId?, ← split]
  intro named
  cases last : more.getLast? with
  | none =>
      obtain rfl := List.getLast?_eq_none_iff.1 last
      rw [List.append_nil] at named
      exact moved named
  | some r =>
      rw [List.getLast?_append, last, Option.some_or, Option.map_some] at named
      have apart := later.keys.records.filter fun r => decide (r.chain = q.chain)
      change (s'.ofChain q.chain).Pairwise _ at apart
      rw [← split, List.pairwise_append] at apart
      exact apart.2.2 q member r (List.mem_of_getLast? last) (.inl (Option.some.inj named).symm)

/-- What is closed stays closed. -/
theorem Closed.mono (closed : s.Closed host tag parent) (sound : s.Sound) (later : s'.Sound)
    (grows : s.Grows s') : s'.Closed host tag parent := by
  cases closed with
  | headed head started =>
      refine .headed head fun c named absent => started c named ?_
      have none_left := later.absent c absent
      obtain ⟨more, split⟩ := grows.ofChain c
      rw [none_left] at split
      exact sound.absent_iff.2 (List.append_eq_nil_iff.1 split).1
  | @passed q child stored moved =>
      refine .passed child (grows.record? stored) fun host tag => ?_
      have named := ((record?_eq_some_iff sound.keys).1 stored).2
      have never := sound.never_last_again later grows (named.symm ▸ stored)
      rw [named] at never
      exact never (moved host tag)

end Store

/-! ## What a move refuses -/

end ChainLog
