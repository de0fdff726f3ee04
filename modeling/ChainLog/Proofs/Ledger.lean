/-
# Ledgers

A ledger keeps the list of the records of each chain and nothing else: no positions beside the
places in the lists, no tip rows, no lengths.  `Call` are the requests to a store, and
`Ledger.reply` says what each of them does to a ledger and what it answers.
-/
import ChainLog.Proofs.LinkedChain
import ChainLog.Session.Run

namespace ChainLog

set_option autoImplicit false

open Session

/-- The records of each chain, in the order in which the chains were started. -/
structure Ledger where
  chains : List (ChainName × List Record)

namespace Ledger

def empty : Ledger := ⟨[]⟩

/-- The records of a chain; an absent chain has none. -/
def log (l : Ledger) (c : ChainName) : List Record := (l.chains.find? (·.1 = c)).elim [] (·.2)

/-- The chain that has a record of that identifier. -/
def holder? (l : Ledger) (id : Uuid) : Option ChainName :=
  (l.chains.find? fun entry => entry.2.any (·.id = id)).map (·.1)

def record? (l : Ledger) (id : Uuid) : Option Record :=
  (l.holder? id).bind fun c => (l.log c).find? (·.id = id)

/-- The chains with a record more at the end of one, which may be started by it. -/
def pushTo (c : ChainName) (r : Record) :
    List (ChainName × List Record) → List (ChainName × List Record)
  | [] => [(c, [r])]
  | (d, log) :: rest => if d = c then (d, log ++ [r]) :: rest else (d, log) :: pushTo c r rest

def push (l : Ledger) (c : ChainName) (r : Record) : Ledger := ⟨pushTo c r l.chains⟩

/-- Why an entry may not come next in a chain. -/
def refusal? (l : Ledger) (e : Entry) (c : ChainName) : Option Refusal :=
  let tip := (l.log c).getLast?.map (·.id)
  if (l.holder? e.id).isSome then some (.conflict e.id)
  else if e.parent = Uuid.nil then tip.map fun id => e.forks (some id)
  else
    match l.holder? e.parent with
    | none => some (.orphan e.id e.parent)
    | some d =>
        if d ≠ c then some (e.forks none)
        else if tip = some e.parent then none
        else some (e.forks tip)

/-- The records of a chain after one of them, or all of them. -/
def since (l : Ledger) (c : ChainName) (id : Uuid) : Except Absence (List Record) :=
  if l.log c = [] then .error (.chain c)
  else if id = Uuid.nil then .ok (l.log c)
  else
    match (l.log c).findIdx? (·.id = id) with
    | none => .error (.notInChain id c)
    | some i => .ok ((l.log c).drop (i + 1))

/-- The chains whose first record is a user's; no value is no user. -/
def ownedBy (l : Ledger) (user : Option Cell) : List (ChainName × List Record) :=
  l.chains.filter fun entry => entry.2.head?.any fun r => user.any r.userId.same

/-- The last identifiers of a user's chains, by host and then by tag. -/
def status (l : Ledger) (userId : Value) : Except ParameterError (List (Uuid × List (Cell × Uuid))) :=
  userId.inNumbers.map fun user =>
    (groupBy (·.1.host) (l.ownedBy user)).map fun g =>
      (g.1, g.2.map fun entry => (entry.1.tag, lastId Uuid.nil entry.2))

end Ledger

/-- The tag and the version that are proposed. -/
def Session.Proposal.texts : Proposal → Value × Value
  | .given _ _ _ _ version tag _ _ => (tag, version)
  | .fresh _ _ _ tag version _ _ _ => (tag, version)

/-- A request to a store.  Tags and versions are texts, and page sizes 64-bit integers; all else
may be anything. -/
inductive Call where
  | clock (now : Time.Instant)
  | service (pageSize : Option Int) (word : ∀ n ∈ pageSize, IsWord n)
  | append (p : Proposal) (keep : Option String) (tag version : String)
      (texts : p.texts = (.text tag, .text version))
  | get (id : Value)
  | tipRecord (host : Value) (tag : String)
  | head (host : Value) (tag : String)
  | length (host : Value) (tag : String)
  | readChain (r : ChainRequest) (full : Bool) (word : ∀ n ∈ r.pageSize, IsWord n)
  | status (userId : Value)
  | verify (host : Value) (tag : String)

/-- The step of a session that makes the request. -/
def Call.step : Call → Step
  | clock now => .clock now
  | service pageSize _ => .service pageSize
  | append p keep _ _ _ => .append p keep
  | get id => .get id
  | tipRecord host tag => .tipRecord host tag
  | head host tag => .head host tag
  | length host tag => .length host tag
  | readChain r full _ => .readChain r full
  | status userId => .status userId
  | verify host tag => .verify host tag none

namespace Ledger

/-- The ledger, and what is answered, when a draft is appended. -/
def append (l : Ledger) (now : Time.Instant) (d : Draft) (tag version : String) :
    Ledger × Except Fault Payload :=
  match d.settle with
  | (_, .error err) => (l, .error (.draft err))
  | (d, .ok e) =>
      let c : ChainName := ⟨e.host, .text tag⟩
      match l.refusal? e c with
      | some r => (l, .error (.refused r false))
      | none =>
          let idx : Cell := .int (l.log c).length
          (l.push c (e.toRecord c (.text version) idx now),
            .ok (.draft { d with idx := idx.value, createdAt := .stored now, origin := .stored e idx }))

/-- What is answered about the identifier that a value spells. -/
def about (v : Value) (f : Uuid → Except Fault Payload) : Except Fault Payload :=
  match v.toUuid with
  | .error e => .error (.identifier e)
  | .ok u => f u

/-- What a call does to a ledger, and what it answers. -/
def reply (l : Ledger) (now : Time.Instant) : Call → Ledger × Except Fault Payload
  | .clock _ => (l, .ok .nothing)
  | .service pageSize _ => (l, .ok (.number (Service.ofPageSize pageSize).pageSize))
  | .append p _ tag version _ =>
      match p.build with
      | .error e => (l, .error (.identifier e))
      | .ok d => l.append now d tag version
  | .get id => (l, about id fun u => (l.record? u).elim (.error (.absent (.record u))) (.ok ∘ .record))
  | .tipRecord host tag => (l, about host fun u => .ok (.row (l.log ⟨u, .text tag⟩).getLast?))
  | .head host tag => (l, about host fun u => .ok (.row (l.log ⟨u, .text tag⟩).head?))
  | .length host tag => (l, about host fun u => .ok (.cell (.int (l.log ⟨u, .text tag⟩).length)))
  | .readChain r _ _ =>
      (l, about r.host fun host => about r.since fun id =>
        ((l.since ⟨host, .text r.tag⟩ id).map .records).mapError .absent)
  | .status userId => (l, ((l.status userId).map .status).mapError fun e => .storage (.parameter e))
  | .verify host tag =>
      (l, about host fun u =>
        if l.log ⟨u, .text tag⟩ = [] then .error (.absent (.chain ⟨u, .text tag⟩))
        else .ok (.number (l.log ⟨u, .text tag⟩).length))

end Ledger

/-- The time after a call. -/
def Call.time (now : Time.Instant) : Call → Time.Instant
  | clock later => later
  | service .. | append .. | get .. | tipRecord .. | head .. | length .. | readChain .. | status ..
  | verify .. => now

namespace Ledger

/-- What calls make of a ledger, one after the other, and their answers. -/
def run (l : Ledger) (now : Time.Instant) : List Call → Ledger × List (Except Fault Payload)
  | [] => (l, [])
  | call :: rest =>
      let (l, answer) := l.reply now call
      let (l, answers) := l.run (call.time now) rest
      (l, answer :: answers)

variable {l : Ledger} {c d : ChainName} {r : Record} {now : Time.Instant} {call : Call}

/-! ## Logs only grow -/

theorem log_push : (l.push c r).log d = l.log d ++ if c = d then [r] else [] := by
  unfold log push
  generalize l.chains = chains
  induction chains with
  | nil =>
      by_cases same : c = d
      · simp [pushTo, same]
      · simp [pushTo, same]
  | cons entry rest ih =>
      obtain ⟨b, log⟩ := entry
      simp only [pushTo]
      by_cases here : b = c
      · subst here
        by_cases same : b = d
        · simp [same]
        · simp [same]
      · by_cases same : b = d
        · subst same
          simp [here, Ne.symm here]
        · simpa [here, same] using ih

theorem log_reply : l.log c <+: (l.reply now call).1.log c := by
  cases call with
  | append p keep tag version texts =>
      simp only [reply, append]
      split
      · exact List.prefix_refl _
      · split
        · exact List.prefix_refl _
        · split
          · exact List.prefix_refl _
          · rw [log_push]
            exact List.prefix_append _ _
  | _ => exact List.prefix_refl _

theorem log_run (calls : List Call) : l.log c <+: (l.run now calls).1.log c := by
  induction calls generalizing l now with
  | nil => exact List.prefix_refl _
  | cons call rest ih => exact log_reply.trans ih

end Ledger

end ChainLog
