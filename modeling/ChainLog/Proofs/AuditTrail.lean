/-
# The log as an audit trail

However appends are interleaved, the log tells what has become of each of them (`log_is_audit_trail`).
The lines that report appends to a chain name its records in their order; and each append has
logged a line for its end, unless it failed otherwise than by a refusal, and before that a warning
exactly if its look-ups have found the chain to be somebody else's (`Draft.Warns`).

Which lines an append has logged is not to be seen in a scene.  A `Journal` goes with the scene and
keeps a `Trail` for each append: the database that its look-ups saw, and the lines that the log gained
by its two halves.  It decides nothing: its scene is moved as any other (`Journal.scene_run`).

`Scene.Looked` and `Scene.Written` say what the two halves log.

The appends are of drafts that were never stored and of stored ones as they are.  A stored draft that
has been changed makes its record another one, and the line that reported it stays
(`overwritten_record_stays_logged`).
-/
import ChainLog.Proofs.AppendOnly
import Mathlib.Data.List.Forall2
import Mathlib.Data.List.Perm.Basic

namespace ChainLog

set_option autoImplicit false

variable {s s' : Store} {σ : Scene} {c : ChainName} {d d' : Draft} {e : Entry} {p : Plan}
  {err : AppendError} {line : LogLine} {lines : List LogLine} {r : Record} {t : Tip}
  {db : Database} {now : Time.Instant} {number : Nat}

/-! ## Lines -/

namespace LogLine

/-- The line reports an append to the chain: the tag that was handed in is that of the chain as a
column of texts holds it. -/
def appends (c : ChainName) : LogLine → Bool
  | appended _ host tag _ => host = c.host ∧ tag.inTexts.toOption.join = some c.tag
  | _ => false

/-- The line names the record of the chain and its position.  It shows the tag as it was handed in,
which is the chain's own if it is a text. -/
def Names (c : ChainName) (line : LogLine) (r : Record) : Prop :=
  ∃ tag : Value, tag.inTexts = .ok (some c.tag) ∧ line = .appended r.id c.host tag r.idx ∧
    line.level = .info ∧
    line.message = "appended " ++ r.id.text ++ " to " ++ chainText c.host tag ++ " at idx " ++ r.idx.display

theorem appends_appended {tag : Value} (held : tag.inTexts = .ok (some c.tag)) (id : Uuid) (idx : Cell)
    (b : ChainName) : (appended id c.host tag idx).appends b = decide (c = b) := by
  have same : (c.host = b.host ∧ c.tag = b.tag) ↔ c = b := by
    cases c
    cases b
    simp
  simp only [appends, held, Except.toOption, Option.join_some, Option.some.injEq, same]

end LogLine

/-- At these tables an append of the draft warns of another owner: the draft passes the checks and its
identifier is free, its parent is stored in the chain that it names, and the tip row of that chain
has another user.  The tag has to be hashable for the tip row to be asked for; every text is. -/
inductive Draft.Warns (s : Store) (d : Draft) : LogLine → Prop
  | intro {e : Entry} {q : Record} {t : Tip} (entry : d.settled? = some e)
      (unused : s.record? e.id = none) (child : e.parent ≠ Uuid.nil)
      (parent : s.record? e.parent = some q) (host : q.chain.host = e.host)
      (tag : e.tag.equalsCell q.chain.tag = true) (hashable : e.tag.checkHashable = .ok ())
      (tip : s.tip? q.chain = some t) (other : t.userId ≠ .int e.userId) :
      Warns s d (.otherOwner e.id e.host e.tag e.userId t.userId)

/-- A warning reports no append. -/
theorem Draft.no_report_of_warning {warning : Option LogLine}
    (warns : ∀ line, warning = some line ↔ d.Warns s line) (c : ChainName) :
    warning.toList.filter (·.appends c) = [] := by
  cases warning with
  | none => rfl
  | some line =>
    cases (warns line).1 rfl with
    | intro => rfl

/-- The lines with which an append ends: one that reports it, or the refusal, or none if it fails
otherwise. -/
inductive Finished.Tells (a : Finished) : List LogLine → Prop
  | made {e : Entry} {idx : Cell} (outcome : a.outcome = .ok ())
      (entry : a.proposed.settled? = some e) (position : a.draft.idx = idx.value) :
      Tells a [.appended e.id e.host e.tag idx]
  | refused {e : Entry} {r : Refusal} {byKey : Bool} (outcome : a.outcome = .error (.refused r byKey))
      (entry : a.proposed.settled? = some e) : Tells a [.refused e.id e.host e.tag r]
  | failed {err : AppendError} (outcome : a.outcome = .error err)
      (unrefused : ∀ r byKey, err ≠ .refused r byKey) : Tells a []

theorem Finished.tells_of_error {a : Finished} (outcome : a.outcome = .error err)
    (entry : a.proposed.settled? = some e) : a.Tells (err.log e) := by
  cases err with
  | refused r byKey => exact .refused outcome entry
  | draft | storage | operand | stale | lost => exact .failed outcome fun _ _ => nofun

/-- Only an append that is made reports one. -/
theorem Finished.Tells.no_report {a : Finished} (tells : a.Tells lines) (unmade : a.outcome ≠ .ok ())
    (c : ChainName) : lines.filter (·.appends c) = [] := by
  cases tells with
  | made outcome => exact absurd outcome unmade
  | refused => rfl
  | failed => rfl

/-! ## What the halves log -/

namespace Store

/-- A tip row has the number of a user. -/
theorem Sound.tip_user (sound : s.Sound) (tip : s.tip? c = some t) : ∃ u : Int, t.userId = .int u := by
  obtain ⟨r, head, same⟩ := Option.map_eq_some_iff.1 (sound.tops c t tip).userId
  rw [← same]
  exact sound.users r (mem_ofChain.1 (List.mem_of_mem_head? head)).1

/-- The warning of look-ups that let the append go on. -/
def warning? (s : Store) (e : Entry) (p : Plan) : Option LogLine :=
  (s.otherOwner? e p).map fun owner => .otherOwner e.id e.host e.tag e.userId owner

theorem warning?_eq_some_iff (sound : s.Sound) (entry : d.settled? = some e)
    (planned : s.plan e = .ok p) : s.warning? e p = some line ↔ d.Warns s line := by
  obtain ⟨free, fits, -⟩ := plan_eq_ok_iff.1 planned
  constructor
  · intro warned
    obtain ⟨owner, found, rfl⟩ := Option.map_eq_some_iff.1 warned
    cases fits with
    | start => cases found
    | @extend q child parent host tag hashable =>
      obtain ⟨row, other⟩ := Option.filter_eq_some_iff.1 found
      obtain ⟨t, tip, rfl⟩ := Option.map_eq_some_iff.1 row
      refine .intro entry free child parent host tag hashable tip fun same => ?_
      simp [same, Cell.same_refl] at other
  · intro warns
    cases warns with
    | @intro e' q t entry' _ child parent _ _ _ tip other =>
      obtain rfl := Option.some.inj (entry'.symm.trans entry)
      obtain ⟨u, user⟩ := sound.tip_user tip
      have differs : (Cell.int u).same (.int e'.userId) = false := by
        rw [user] at other
        simpa [Cell.same_int] using other
      cases fits with
      | start head => exact absurd head child
      | @extend q' _ parent' =>
        obtain rfl := Option.some.inj (parent'.symm.trans parent)
        simp [warning?, otherOwner?, tip, user, differs]

end Store

namespace Draft

/-- Whoever has a warning to make is not refused by the look-ups. -/
theorem Warns.planned (warns : d.Warns s line) : ∃ e p, d.settled? = some e ∧ s.plan e = .ok p := by
  cases warns with
  | intro entry unused child parent host tag hashable =>
    exact ⟨_, _, entry, Store.plan_eq_ok_iff.2
      ⟨unused, .extend child parent host tag hashable, fun c start => nomatch start⟩⟩

theorem not_warns_of_invalid {invalid : DraftError} (settled : d.settle = (d', .error invalid)) :
    ¬ d.Warns s line := by
  intro warns
  obtain ⟨e, -, entry, -⟩ := warns.planned
  rw [settled?, settled] at entry
  cases entry

theorem not_warns_of_refused (entry : d.settled? = some e) (refused : s.plan e = .error err) :
    ¬ d.Warns s line := by
  intro warns
  obtain ⟨e', p, entry', planned⟩ := warns.planned
  obtain rfl := Option.some.inj (entry'.symm.trans entry)
  cases planned.symm.trans refused

theorem prepare_log (now : Time.Instant) (origin : d.origin ≠ .lost) (found : db.store = .ok s)
    (settled : d.settle = (d', .ok e)) (planned : s.plan e = .ok p) :
    (d.prepare db now).2.1 = (s.warning? e p).toList := by
  simp only [prepare, origin, settled, found, planned, if_false, Store.warning?, Option.toList_map]

end Draft

namespace Scene

/-- What the look-ups of an append of the draft log, and do else. -/
inductive Looked (σ : Scene) (s : Store) (d : Draft) : Scene → Prop
  | on {a : Underway} {warning : Option LogLine} (proposed : a.proposed = d)
      (warns : ∀ line, warning = some line ↔ d.Warns s line) :
      Looked σ s d { σ with underway := σ.underway ++ [a], log := σ.log ++ warning.toList }
  | ended {a : Finished} {lines : List LogLine} (proposed : a.proposed = d)
      (unmade : a.outcome ≠ .ok ()) (calm : ∀ line, ¬ d.Warns s line) (tells : a.Tells lines) :
      Looked σ s d { σ with finished := σ.finished ++ [a], log := σ.log ++ lines }

/-- What the writes of the append of that number log, and do else. -/
inductive Written (σ : Scene) (s : Store) (number : Nat) (a : Underway) : Scene → Store → Prop
  | failed {b : Finished} {lines : List LogLine} (proposed : b.proposed = a.proposed)
      (unmade : b.outcome ≠ .ok ()) (tells : b.Tells lines) :
      Written σ s number a
        ⟨σ.database, σ.underway.eraseIdx number, σ.finished ++ [b], σ.log ++ lines⟩ s
  | made {c : ChainName} {v idx : Cell} {now : Time.Instant} {s' : Store}
      (pushes : a.Pushes s c v idx now s') :
      Written σ s number a
        ⟨σ.database.withStore s', σ.underway.eraseIdx number,
          σ.finished ++ [⟨a.proposed, a.stored idx now, .ok ()⟩],
          σ.log ++ [.appended a.pending.entry.id a.pending.entry.host a.pending.entry.tag idx]⟩ s'

theorem looked (sound : σ.Sound s) (known : d.Known s) (now : Time.Instant) :
    σ.Looked s d (σ.look d now) := by
  unfold look
  rcases Draft.prepare_cases now known.not_lost sound.found with
    ⟨d', invalid, settled, same⟩ | ⟨d', e, err, settled, planned, same⟩ |
      ⟨d', e, p, idx, log, settled, planned, same⟩
  · rw [same]
    exact .ended rfl nofun (fun _ => Draft.not_warns_of_invalid settled)
      (.failed (a := ⟨d, d', .error (.draft invalid)⟩) rfl fun _ _ => nofun)
  · have entry := Draft.settled?_of_settle settled
    rw [same]
    exact .ended rfl nofun (fun _ => Draft.not_warns_of_refused entry planned)
      (Finished.tells_of_error (a := ⟨d, d', .error err⟩) rfl entry)
  · have entry := Draft.settled?_of_settle settled
    have logged := Draft.prepare_log now known.not_lost sound.found settled planned
    rw [same] at logged ⊢
    obtain rfl : log = _ := logged
    exact .on rfl fun _ => Store.warning?_eq_some_iff sound.store entry planned

theorem written {a : Underway} (sound : σ.Sound s) (found : σ.underway[number]? = some a)
    (now : Time.Instant) : ∃ s', σ.Written s number a (σ.write number now) s' := by
  have ready := sound.underway a (List.mem_of_getElem? found)
  unfold write
  rw [found]
  cases committed : a.draft.commit s a.pending now with
  | error err =>
    obtain ⟨idx, same, -⟩ := Draft.complete_of_error ready.isNew sound.found committed
    simp only [same]
    exact ⟨s, .failed rfl nofun
      (Finished.tells_of_error (a := ⟨a.proposed, _, .error err⟩) rfl ready.settled?)⟩
  | ok s' =>
    obtain ⟨idx, position, same⟩ := Draft.complete_of_ok ready.isNew sound.found committed
    obtain ⟨c, v, chain, continues, -, free, version, tables⟩ :=
      (sound.store.commit_eq_ok_iff ready.fits).1 (Draft.commit_eq_ok committed)
    simp only [same]
    exact ⟨s', .made ⟨ready, position, chain, continues, free, version, tables⟩⟩

end Scene

/-- The line of an append that is made names the record that it has stored, and no other chain's. -/
theorem Underway.Pushes.names {a : Underway} {v idx : Cell} (pushes : a.Pushes s c v idx now s')
    (sound : s.Sound) (labelled : s.Labelled) (b : ChainName)
    (named : List.Forall₂ (LogLine.Names b) lines (s.ofChain b)) :
    List.Forall₂ (LogLine.Names b)
      (lines ++ [LogLine.appended a.pending.entry.id a.pending.entry.host a.pending.entry.tag idx].filter
        (·.appends b)) (s'.ofChain b) := by
  obtain ⟨host, held⟩ := pushes.ready.fits.labels pushes.chain labelled
  have place := sound.position_of_continues pushes.ready.fits pushes.chain pushes.continues
  obtain rfl := Except.ok.inj (pushes.position.symm.trans place)
  have reports := LogLine.appends_appended held a.pending.entry.id (.int (s.ofChain c).length) b
  rw [pushes.tables, Store.ofChain_pushed, ← host]
  by_cases same : c = b
  · subst same
    rw [List.filter_cons_of_pos (by simpa using reports), if_pos rfl]
    exact List.rel_append named (.cons ⟨_, held, rfl, rfl, rfl⟩ .nil)
  · rw [List.filter_cons_of_neg (by simpa [same] using reports), if_neg same]
    exact List.rel_append named .nil

/-! ## Journals -/

/-- What there is to know of an append besides what a scene keeps. -/
structure Trail where
  /-- The database that the look-ups saw. -/
  seen : Database
  /-- The lines that the append has logged. -/
  lines : List LogLine

/-- A scene with a trail for each of its appends, in the same order. -/
structure Journal where
  scene : Scene
  underway : List Trail
  finished : List Trail

namespace Journal

def opening (stamp : Option Bool) : Journal := ⟨Scene.opening stamp, [], []⟩

/-- The lines that the log has more in a later scene. -/
def gained (j : Journal) (σ : Scene) : List LogLine := σ.log.drop j.scene.log.length

/-- A trail begins with the look-ups, and also ends with them if they do not let the append go on. -/
def look (j : Journal) (d : Draft) (now : Time.Instant) : Journal :=
  let σ := j.scene.look d now
  let trail : Trail := ⟨j.scene.database, j.gained σ⟩
  if σ.finished.length = j.scene.finished.length then { j with scene := σ, underway := j.underway ++ [trail] }
  else { j with scene := σ, finished := j.finished ++ [trail] }

/-- A trail ends with the writes. -/
def write (j : Journal) (number : Nat) (now : Time.Instant) : Journal :=
  let σ := j.scene.write number now
  match j.underway[number]? with
  | none => { j with scene := σ }
  | some trail =>
      ⟨σ, j.underway.eraseIdx number,
        j.finished ++ [{ trail with lines := trail.lines ++ j.gained σ }]⟩

def move (j : Journal) : Move → Journal
  | .look submission now => j.look submission.draft now
  | .again number now =>
      match j.scene.finished[number]? with
      | none => j
      | some a => j.look a.draft now
  | .write number now => j.write number now

def run (j : Journal) (moves : List Move) : Journal := moves.foldl move j

variable {j : Journal}

theorem scene_look : (j.look d now).scene = j.scene.look d now := by
  simp only [look, apply_ite Journal.scene, ite_self]

theorem scene_write : (j.write number now).scene = j.scene.write number now := by
  unfold write
  split <;> rfl

theorem scene_move (j : Journal) (m : Move) : (j.move m).scene = j.scene.move m := by
  cases m with
  | look submission now => exact scene_look
  | again number now =>
    simp only [move, Scene.move]
    cases j.scene.finished[number]? with
    | none => rfl
    | some a => exact scene_look
  | write number now => exact scene_write

/-- A journal goes with a scene and does not change what becomes of it. -/
theorem scene_run (j : Journal) (moves : List Move) : (j.run moves).scene = j.scene.run moves := by
  induction moves generalizing j with
  | nil => rfl
  | cons m moves ih =>
    change ((j.move m).run moves).scene = (j.scene.move m).run moves
    rw [ih, scene_move]

end Journal

/-! ## Accounts -/

/-- The append has logged the warning that its look-ups gave cause for, or nothing. -/
def Underway.Logged (a : Underway) (trail : Trail) : Prop :=
  ∃ (s : Store) (warning : Option LogLine), trail.seen.store = .ok s ∧
    (∀ line, warning = some line ↔ a.proposed.Warns s line) ∧ trail.lines = warning.toList

/-- The append has logged the warning that its look-ups gave cause for, or nothing, and then how it
ended. -/
def Finished.Logged (a : Finished) (trail : Trail) : Prop :=
  ∃ (s : Store) (warning : Option LogLine) (ending : List LogLine), trail.seen.store = .ok s ∧
    (∀ line, warning = some line ↔ a.proposed.Warns s line) ∧ a.Tells ending ∧
    trail.lines = warning.toList ++ ending

/-- The log of a sound scene accounts for the appends and for the records. -/
structure Journal.Accounts (j : Journal) (s : Store) : Prop where
  sound : j.scene.Sound s
  labelled : s.Labelled
  underway : List.Forall₂ Underway.Logged j.scene.underway j.underway
  finished : List.Forall₂ Finished.Logged j.scene.finished j.finished
  chains : ∀ c, List.Forall₂ (LogLine.Names c) (j.scene.log.filter (·.appends c)) (s.ofChain c)
  whole : j.scene.log.Perm ((j.underway ++ j.finished).flatMap Trail.lines)

namespace Journal

variable {j : Journal}

theorem accounts_opening (stamp : Option Bool) : (opening stamp).Accounts Store.empty where
  sound := Scene.sound_opening stamp
  labelled _ member := by cases member
  underway := .nil
  finished := .nil
  chains _ := .nil
  whole := .nil

theorem Accounts.look (accounts : j.Accounts s) (known : d.Known s) (now : Time.Instant) :
    (j.look d now).Accounts s := by
  obtain ⟨added, effect⟩ := Scene.look_effect accounts.sound known now
  have sound := effect.sound accounts.sound
  have looked := Scene.looked accounts.sound known now
  unfold Journal.look gained
  generalize j.scene.look d now = σ at looked sound
  cases looked with
  | @on a warning proposed warns =>
    simp only [List.drop_left, if_true]
    refine ⟨sound, accounts.labelled, ?_, accounts.finished, fun c => ?_, ?_⟩
    · refine List.rel_append accounts.underway (.cons ⟨s, _, accounts.sound.found, ?_, rfl⟩ .nil)
      rwa [proposed]
    · rw [List.filter_append, Draft.no_report_of_warning warns, List.append_nil]
      exact accounts.chains c
    · have more := accounts.whole.append_right warning.toList
      simp only [List.flatMap_append, List.flatMap_singleton, List.append_assoc] at more ⊢
      exact more.trans (List.perm_append_comm.append_left _)
  | @ended a lines proposed unmade calm tells =>
    have longer : (j.scene.finished ++ [a]).length ≠ j.scene.finished.length := by simp
    simp only [List.drop_left, longer, if_false]
    refine ⟨sound, accounts.labelled, accounts.underway, ?_, fun c => ?_, ?_⟩
    · refine List.rel_append accounts.finished
        (.cons ⟨s, none, lines, accounts.sound.found, fun line => ?_, tells, rfl⟩ .nil)
      simp [proposed, calm]
    · rw [List.filter_append, tells.no_report unmade, List.append_nil]
      exact accounts.chains c
    · have more := accounts.whole.append_right lines
      simp only [List.flatMap_append, List.flatMap_singleton, List.append_assoc] at more ⊢
      exact more

/-- The trail of an append that is under way. -/
theorem Accounts.trail {a : Underway} (accounts : j.Accounts s)
    (found : j.scene.underway[number]? = some a) :
    ∃ trail, j.underway[number]? = some trail ∧ a.Logged trail := by
  obtain ⟨inside, rfl⟩ := List.getElem?_eq_some_iff.1 found
  have inside' : number < j.underway.length := accounts.underway.length_eq ▸ inside
  exact ⟨_, List.getElem?_eq_getElem inside', accounts.underway.get inside inside'⟩

/-- The trails of the other appends that are under way. -/
theorem Accounts.others (accounts : j.Accounts s) (number : Nat) :
    List.Forall₂ Underway.Logged (j.scene.underway.eraseIdx number) (j.underway.eraseIdx number) := by
  rw [List.eraseIdx_eq_take_drop_succ, List.eraseIdx_eq_take_drop_succ]
  exact List.rel_append (List.forall₂_take number accounts.underway)
    (List.forall₂_drop (number + 1) accounts.underway)

/-- What the log gains when an append ends goes to the trail of that append. -/
theorem Accounts.whole_written {trail : Trail} (accounts : j.Accounts s)
    (kept : j.underway[number]? = some trail) (lines : List LogLine) :
    (j.scene.log ++ lines).Perm ((j.underway.eraseIdx number ++
      (j.finished ++ [(⟨trail.seen, trail.lines ++ lines⟩ : Trail)])).flatMap Trail.lines) := by
  obtain ⟨inside, rfl⟩ := List.getElem?_eq_some_iff.1 kept
  have taken := (List.getElem_cons_eraseIdx_perm inside).symm.flatMap_right Trail.lines
  have more := accounts.whole.append_right lines
  simp only [List.flatMap_append, List.flatMap_cons, List.flatMap_nil, List.append_nil] at taken more ⊢
  refine more.trans (((taken.append_right _).append_right _).trans ?_)
  simp only [List.append_assoc]
  exact (List.perm_append_comm_assoc _ _ _).trans
    ((List.perm_append_comm_assoc _ _ _).append_left _)

theorem Accounts.write (accounts : j.Accounts s) (number : Nat) (now : Time.Instant) :
    ∃ s', (j.write number now).Accounts s' := by
  unfold Journal.write
  cases found : j.scene.underway[number]? with
  | none =>
    have beyond : j.underway[number]? = none := by
      rw [List.getElem?_eq_none_iff, ← accounts.underway.length_eq]
      exact List.getElem?_eq_none_iff.1 found
    have still : j.scene.write number now = j.scene := by
      unfold Scene.write
      rw [found]
    simp only [beyond, still]
    exact ⟨s, accounts⟩
  | some a =>
    obtain ⟨trail, kept, seen, warning, looked, warns, logged⟩ := accounts.trail found
    obtain ⟨added, t, effect⟩ := Scene.write_effect accounts.sound number now
    have sound := effect.sound accounts.sound
    obtain ⟨s', written⟩ := Scene.written accounts.sound found now
    simp only [kept, gained]
    generalize j.scene.write number now = σ at written sound
    cases written with
    | failed proposed unmade tells =>
      obtain rfl : s = t := Except.ok.inj (accounts.sound.found.symm.trans sound.found)
      simp only [List.drop_left]
      refine ⟨s, sound, accounts.labelled, accounts.others number, ?_, fun c => ?_,
        accounts.whole_written kept _⟩
      · exact List.rel_append accounts.finished
          (.cons ⟨seen, warning, _, looked, proposed ▸ warns, tells, by rw [logged]⟩ .nil)
      · rw [List.filter_append, tells.no_report unmade, List.append_nil]
        exact accounts.chains c
    | @made c v idx now s' pushes =>
      obtain rfl : s' = t := Except.ok.inj
        ((Database.store_withStore accounts.sound.found).symm.trans sound.found)
      simp only [List.drop_left]
      have tag := (pushes.ready.fits.labels pushes.chain accounts.labelled).2
      refine ⟨s', sound, pushes.tables ▸ accounts.labelled.pushed tag, accounts.others number, ?_,
        fun b => ?_, accounts.whole_written kept _⟩
      · exact List.rel_append accounts.finished
          (.cons ⟨seen, warning, _, looked, warns, .made rfl pushes.ready.settled? rfl,
            by rw [logged]⟩ .nil)
      · rw [List.filter_append]
        exact pushes.names accounts.sound.store accounts.labelled b (accounts.chains b)

theorem Accounts.move (accounts : j.Accounts s) (m : Move) : ∃ s', (j.move m).Accounts s' := by
  cases m with
  | look submission now => exact ⟨s, accounts.look (.inl submission.isNew) now⟩
  | again number now =>
    simp only [Journal.move]
    cases found : j.scene.finished[number]? with
    | none => exact ⟨s, accounts⟩
    | some a =>
      exact ⟨s, accounts.look (accounts.sound.finished a (List.mem_of_getElem? found)) now⟩
  | write number now => exact accounts.write number now

theorem Accounts.run (accounts : j.Accounts s) (moves : List Move) :
    ∃ s', (j.run moves).Accounts s' := by
  induction moves generalizing j s with
  | nil => exact ⟨s, accounts⟩
  | cons m moves ih =>
    obtain ⟨t, moved⟩ := accounts.move m
    exact ih moved

end Journal

/-- **The log is an audit trail.**  However appends are interleaved, the lines that report appends to a
chain name its records in their order, at the positions 0, 1, 2 and so on.  Each append has logged a
warning exactly if its look-ups gave cause for one.  After that an append that is made has logged
its report, one that is refused the refusal, and one that fails otherwise nothing.  There are no
other lines in the log. -/
theorem log_is_audit_trail (stamp : Option Bool) (moves : List Move) :
    let j := (Journal.opening stamp).run moves
    j.scene = (Scene.opening stamp).run moves ∧ ∃ s, j.scene.database.store = .ok s ∧
      (∀ c, List.Forall₂ (LogLine.Names c) (j.scene.log.filter (·.appends c)) (s.inOrder c) ∧
        (s.inOrder c).map (·.idx) = (List.range (s.inOrder c).length).map fun i => .int (i : Nat)) ∧
      List.Forall₂ Underway.Logged j.scene.underway j.underway ∧
      List.Forall₂ Finished.Logged j.scene.finished j.finished ∧
      j.scene.log.Perm ((j.underway ++ j.finished).flatMap Trail.lines) := by
  intro j
  obtain ⟨s, accounts⟩ := (Journal.accounts_opening stamp).run moves
  refine ⟨Journal.scene_run _ moves, s, accounts.sound.found, fun c => ?_, accounts.underway,
    accounts.finished, accounts.whole⟩
  rw [accounts.sound.store.inOrder]
  exact ⟨accounts.chains c, by rw [(accounts.sound.store.linked c).positions, List.range_eq_range']⟩

/-- A truth value as a tag is stored as `1`, and a line shows it as it was handed in. -/
example : (Value.bool true).inTexts = .ok (some (.text "1")) ∧ (Value.bool true).display = "True" :=
  ⟨rfl, rfl⟩

/-- The draft of a stored record is given another identifier and another tag, and is appended once
more: the log reports both appends, but the record that the first line names is not there any more. -/
theorem overwritten_record_stays_logged :
    let c : ChainName := ⟨.ofNat 7, .text "history"⟩
    let τ := Scene.withRecordOverwritten
    ∃ s, τ.database.store = .ok s ∧ τ.finished.map (·.outcome.isOk) = [true, true] ∧
      τ.log = [.appended (.ofNat 1) (.ofNat 7) (.text "history") (.int 0),
        .appended (.ofNat 2) (.ofNat 7) (.text "kv") (.int 0)] ∧
      s.inOrder c = [] ∧
      ¬ List.Forall₂ (LogLine.Names c) (τ.log.filter (·.appends c)) (s.inOrder c) := by
  intro c τ
  obtain ⟨-, found, made⟩ := Scene.store_overwritten
  let s : Store := ⟨[.numbered 2 "kv"], [.numbered 1 "history", .numbered 2 "kv"]⟩
  have gone : s.inOrder c = [] := rfl
  have reported : τ.log.filter (·.appends c) =
      [.appended (.ofNat 1) (.ofNat 7) (.text "history") (.int 0)] := rfl
  refine ⟨s, found, made, rfl, gone, fun names => ?_⟩
  rw [reported, gone] at names
  cases names

end ChainLog
