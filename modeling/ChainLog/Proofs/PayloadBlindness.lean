/-
# Payloads are never inspected

Two sessions begin in states that differ in payloads only, such as empty tables, and take the same
steps, but for the bytes that their drafts carry.  Sealed, the steps of both are the same, and so
are the states that they come to and all that is answered (`payloads_never_inspected`): the
results, the failures and the log lines of every step, and of those that run inside it.  A sealed
answer differs from the answer itself only in the payloads of the records in it and in the sizes
that listings tell.

This is so as long as no draft that has been stored is appended again with other bytes, which would
make its record be written again (`changed_payload_is_noticed`).

The proof is by running sealed steps: from a sealed state a step comes to the sealed state and
answers the sealed answer (`Step.run_sealed`), and so does a list of steps (`runAll_sealed`).  The
two go together, because a suspended append and a suspended verification run lists of steps.
-/
import ChainLog.Proofs.SealedSession

namespace ChainLog.Session

set_option autoImplicit false

/-! ## Running sealed steps -/

theorem sealedSteps_eq_map (steps : List Step) : sealedSteps steps = steps.map Step.sealed := by
  induction steps with
  | nil => rfl
  | cons step rest ih => rw [sealedSteps, ih, List.map_cons]

theorem sealedAnswers_eq_map (answers : List Answer) :
    sealedAnswers answers = answers.map Answer.sealed := by
  induction answers with
  | nil => rfl
  | cons answer rest ih => rw [sealedAnswers, ih, List.map_cons]

theorem blindSteps_iff {steps : List Step} : BlindSteps steps ↔ ∀ step ∈ steps, step.Blind := by
  induction steps with
  | nil => simp [BlindSteps]
  | cons step rest ih => simp [BlindSteps, ih]

theorem Answer.log_sealed (answer : Answer) : answer.sealed.log = answer.log := by
  cases answer
  rfl

theorem Answer.isOk_sealed (answer : Answer) : answer.sealed.outcome.isOk = answer.outcome.isOk := by
  obtain ⟨outcome, log, inner⟩ := answer
  cases outcome <;> rfl

/-- The lines of inner steps are the same. -/
theorem logs_sealed (answers : List Answer) :
    (sealedAnswers answers).flatMap Answer.log = answers.flatMap Answer.log := by
  rw [sealedAnswers_eq_map, List.flatMap_map]
  simp only [Answer.log_sealed]

section

variable (s : State)

theorem object_sealed (name : String) :
    (Step.object name).run s.sealed =
      Prod.map State.sealed Answer.sealed ((Step.object name).run s) := by
  have found : s.sealed.drafts.lookup name = (s.drafts.lookup name).map Draft.sealed :=
    lookup_map Draft.sealed name s.drafts
  simp only [Step.run, found]
  cases s.drafts.lookup name with
  | none => rfl
  | some d =>
      simp only [Option.map_some]
      by_cases lost : d.origin = .lost
      · rw [if_pos lost, if_pos (Draft.lost_sealed.2 lost)]
        rfl
      · rw [if_neg lost, if_neg (mt Draft.lost_sealed.1 lost)]
        rfl

/-- An append that is suspended while sealed steps run. -/
theorem race_sealed (p : Proposal) (keep : Option String) (inner : List Step)
    (ran : runAll s.sealed (sealedSteps inner) =
      Prod.map State.sealed sealedAnswers (runAll s inner)) :
    (Step.race p keep inner).sealed.run s.sealed =
      Prod.map State.sealed Answer.sealed ((Step.race p keep inner).run s) := by
  simp only [Step.sealed, Step.run, Proposal.build_sealed]
  cases built : p.build with
  | error failure => rfl
  | ok d =>
      have spared := Draft.keepsPayload_of_new (Proposal.build_new built)
      have prepared : (d.prepare s.database s.now).1.KeepsPayload := spared.prepare
      have looked : d.sealed.prepare s.sealed.database s.sealed.now =
          ((d.prepare s.database s.now).1.sealed, (d.prepare s.database s.now).2.1,
            (d.prepare s.database s.now).2.2.map Pending.sealed) := Draft.prepare_sealed
      simp only [Except.map, looked]
      rcases first : d.prepare s.database s.now with ⟨d, log, failure | pending⟩
      · simp only [State.keepDraft_sealed]
        rfl
      rw [first] at prepared
      simp only [ran]
      rcases runAll s inner with ⟨s, answers⟩
      have completed : d.sealed.complete pending.sealed s.sealed.database s.sealed.now =
          ((d.complete pending s.database s.now).1.sealed,
            (d.complete pending s.database s.now).2.1.sealed,
            (d.complete pending s.database s.now).2.2) := Draft.complete_sealed prepared
      simp only [Prod.map_apply, completed, logs_sealed]
      rcases d.complete pending s.database s.now with ⟨db, d, log', outcome⟩
      have kept : ({ s.sealed with database := db.sealed } : State).keepDraft d.sealed keep =
          (({ s with database := db } : State).keepDraft d keep).sealed :=
        State.keepDraft_sealed { s with database := db } d keep
      simp only [kept]
      cases outcome <;> rfl

/-- A verification that is suspended while sealed steps run. -/
theorem verify_sealed (host : Value) (tag : String) (inner : Option (List Step))
    (ran : runInner s.sealed (sealedInner inner) =
      Prod.map State.sealed sealedInnerAnswers (runInner s inner)) :
    (Step.verify host tag inner).sealed.run s.sealed =
      Prod.map State.sealed Answer.sealed ((Step.verify host tag inner).run s) := by
  simp only [Step.sealed, Step.run]
  cases host.toUuid with
  | error failure => rfl
  | ok u =>
      have row : s.sealed.database.tipRow ⟨u, .text tag⟩ = s.database.tipRow ⟨u, .text tag⟩ :=
        Database.tipRow_sealed
      simp only [row]
      cases s.database.tipRow ⟨u, .text tag⟩ with
      | error failure => rfl
      | ok t =>
          simp only [ran]
          rcases runInner s inner with ⟨s, answers⟩
          have verified : t.verifyWith s.sealed.service.pageSize s.sealed.database
                (fun _ => s.sealed.database) =
              t.verifyWith s.service.pageSize s.database fun _ => s.database :=
            t.verifyWith_sealed s.service.pageSize
          have logs : ((sealedInnerAnswers answers).getD []).flatMap Answer.log =
              (answers.getD []).flatMap Answer.log := by
            cases answers with
            | none => rfl
            | some answers => exact logs_sealed answers
          simp only [Prod.map_apply, verified, logs]
          cases t.verifyWith s.service.pageSize s.database fun _ => s.database <;> rfl

end

mutual

/-- A sealed step takes a sealed state to the sealed state after it, and answers the sealed
answer. -/
theorem Step.run_sealed (s : State) (step : Step) (blind : step.Blind) (spares : step.Spares s) :
    step.sealed.run s.sealed = Prod.map State.sealed Answer.sealed (step.run s) := by
  cases step with
  | clock now => rfl
  | service pageSize => rfl
  | defaultService => rfl
  | append p keep => exact s.append_sealed p keep
  | appendMany p count => exact s.appendMany_sealed p count
  | reappend name changes => exact s.reappend_sealed name changes spares
  | object name => exact object_sealed s name
  | race p keep inner => exact race_sealed s p keep inner (runAll_sealed s inner blind spares)
  | edit edits abandon => exact blind.elim
  | get id =>
      refine congrArg (Prod.mk s.sealed) (s.reading_sealed id fun store u => ?_)
      rw [Store.record?_sealed]
      cases store.record? u <;> rfl
  | tipRecord host tag =>
      refine congrArg (Prod.mk s.sealed) (s.reading_sealed host fun store u => ?_)
      rw [Store.tipRecord?_sealed]
      rfl
  | head host tag =>
      refine congrArg (Prod.mk s.sealed) (s.reading_sealed host fun store u => ?_)
      rw [Store.head?_sealed]
      rfl
  | length host tag =>
      exact congrArg (Prod.mk s.sealed) (s.reading_sealed host fun store u => rfl)
  | readChain r full => exact congrArg (Prod.mk s.sealed) (s.readChain_sealed r full)
  | chain r keep => exact s.keepChain_sealed r keep
  | list name => exact congrArg (Prod.mk s.sealed) (s.listChain_sealed name)
  | iterate name keep => exact s.iterate_sealed name keep
  | next name n => exact s.next_sealed name n
  | status userId =>
      have status : s.sealed.database.status userId = s.database.status userId :=
        Database.status_sealed
      simp only [Step.sealed, Step.run, status]
      cases s.database.status userId <;> rfl
  | verify host tag inner =>
      exact verify_sealed s host tag inner (runInner_sealed s inner blind spares)
  | count conditions =>
      have counted : s.sealed.database.count conditions = s.database.count conditions :=
        Database.count_sealed conditions blind
      simp only [Step.sealed, Step.run, counted]
      cases s.database.count conditions <;> rfl
  | dump =>
      have store : s.sealed.database.store = s.database.store.map Store.sealed :=
        Database.store_sealed
      simp only [Step.sealed, Step.run, store]
      cases s.database.store with
      | error failure => rfl
      | ok store =>
          exact congrArg (fun p => (s.sealed, Answer.of (.ok p) [])) (State.dump_sealed store)
  | tipSummary host tag =>
      exact congrArg (Prod.mk s.sealed) (s.reading_sealed host fun store u => rfl)
  | createTables => exact s.replacing_sealed s.database.createTables_sealed
  | dropTables => exact s.replacing_sealed s.database.dropTables_sealed
  | upgrade => exact s.replacing_sealed s.database.upgrade_sealed
  | downgrade => exact s.replacing_sealed s.database.downgrade_sealed
  | schema =>
      have schema : s.sealed.database.schema = s.database.schema := s.database.schema_sealed
      simp only [Step.sealed, Step.run, schema]
      cases s.database.schema <;> rfl
  | migrate direction revision offline => exact s.migrate_sealed direction revision offline
  | describeChain host tag pageSize =>
      simp only [Step.sealed, Step.run]
      apply s.inspecting_sealed
      intro db u
      rw [Database.describeChain_sealed]
      rcases db.describeChain ⟨u, .text tag⟩ (Service.ofPageSize pageSize) with
        ⟨log, failure | l⟩ <;> rfl
  | checkChain host tag pageSize =>
      simp only [Step.sealed, Step.run]
      apply s.inspecting_sealed
      intro db u
      rw [Database.checkChain_sealed]
      rcases db.checkChain host.display ⟨u, .text tag⟩ (Service.ofPageSize pageSize) with
        ⟨log, failure | n⟩ <;> rfl
  | describeUser userId =>
      have opened : s.sealed.database.open = s.database.open.sealed := rfl
      simp only [Step.sealed, Step.run, opened, Database.describeUser_sealed]
      cases s.database.open.describeUser userId <;> rfl
  | container setup => exact s.container_sealed setup
  | inspect words environment => exact blind.elim
  | ensureTables environment =>
      have ensured : CommandLine.ensureTables s.sealed.database environment = _ :=
        CommandLine.ensureTables_sealed s.database environment
      simp only [Step.sealed, Step.run, ensured, Database.tableNames_sealed]
      rcases CommandLine.ensureTables s.database environment with ⟨db, log, failure | _⟩ <;> rfl

theorem runInner_sealed (s : State) (inner : Option (List Step)) (blind : BlindInner inner)
    (spares : SparesInner s inner) :
    runInner s.sealed (sealedInner inner) =
      Prod.map State.sealed sealedInnerAnswers (runInner s inner) := by
  cases inner with
  | none => rfl
  | some inner =>
      simp only [sealedInner, runInner]
      rw [runAll_sealed s inner blind spares]
      rfl

theorem runAll_sealed (s : State) (steps : List Step) (blind : BlindSteps steps)
    (spares : SparesAll s steps) :
    runAll s.sealed (sealedSteps steps) =
      Prod.map State.sealed sealedAnswers (runAll s steps) := by
  cases steps with
  | nil => rfl
  | cons step rest =>
      have first := step.run_sealed s blind.1 spares.1
      have others := runAll_sealed (step.run s).1 rest blind.2 spares.2
      simp only [sealedSteps, runAll, first, Prod.map_fst, Prod.map_snd, others]
      rfl

end

mutual

/-- Whether a step is blind does not depend on the bytes that it carries. -/
theorem Step.blind_sealed (step : Step) : step.sealed.Blind ↔ step.Blind := by
  cases step with
  | race p keep inner => exact blindSteps_sealed inner
  | verify host tag inner => exact blindInner_sealed inner
  | _ => exact Iff.rfl

theorem blindInner_sealed (inner : Option (List Step)) :
    BlindInner (sealedInner inner) ↔ BlindInner inner := by
  cases inner with
  | none => exact Iff.rfl
  | some inner => exact blindSteps_sealed inner

theorem blindSteps_sealed (steps : List Step) :
    BlindSteps (sealedSteps steps) ↔ BlindSteps steps := by
  cases steps with
  | nil => exact Iff.rfl
  | cons step rest => exact and_congr step.blind_sealed (blindSteps_sealed rest)

end

/-! ## Two runs -/

theorem SparesAll.take {s : State} {steps : List Step} (spares : SparesAll s steps) (n : Nat) :
    SparesAll s (steps.take n) := by
  induction steps generalizing s n with
  | nil => rwa [List.take_nil]
  | cons step rest ih =>
      cases n with
      | zero => exact trivial
      | succ n => exact ⟨spares.1, ih spares.2 n⟩

/-- **Payloads are never inspected.**  Two sessions begin in states that differ in payloads only,
such as empty tables, and take steps that differ only in the bytes of corresponding drafts; in
neither is a draft that has been stored appended again with other bytes.  Then all answers, with
their failures and their log lines, are the same but for the payloads and the listed sizes in them,
and after any number of steps the states differ in payloads only. -/
theorem payloads_never_inspected {s s' : State} {steps steps' : List Step}
    (start : s.sealed = s'.sealed) (same : steps.map Step.sealed = steps'.map Step.sealed)
    (blind : ∀ step ∈ steps, step.Blind) (here : SparesAll s steps) (there : SparesAll s' steps') :
    (runAll s steps).2.map Answer.sealed = (runAll s' steps').2.map Answer.sealed ∧
      ∀ n, (runAll s (steps.take n)).1.sealed = (runAll s' (steps'.take n)).1.sealed := by
  have agree (l l' : List Step) (same : l.map Step.sealed = l'.map Step.sealed)
      (blind : ∀ step ∈ l, step.Blind) (here : SparesAll s l) (there : SparesAll s' l') :
      Prod.map State.sealed sealedAnswers (runAll s l) =
        Prod.map State.sealed sealedAnswers (runAll s' l') := by
    rw [← sealedSteps_eq_map, ← sealedSteps_eq_map] at same
    have blind := blindSteps_iff.2 blind
    have blind' : BlindSteps l' := by
      rw [← blindSteps_sealed, ← same, blindSteps_sealed]
      exact blind
    rw [← runAll_sealed s l blind here, ← runAll_sealed s' l' blind' there, start, same]
  constructor
  · have answers := congrArg Prod.snd (agree steps steps' same blind here there)
    simpa only [Prod.map_snd, sealedAnswers_eq_map] using answers
  · intro n
    have taken : (steps.take n).map Step.sealed = (steps'.take n).map Step.sealed := by
      rw [List.map_take, List.map_take, same]
    have blind (step : Step) (member : step ∈ steps.take n) := blind step (List.mem_of_mem_take member)
    exact congrArg Prod.fst (agree _ _ taken blind (here.take n) (there.take n))

/-- Two appends, the second one suspended while another takes its place, and then the first draft
once more, with its bytes carried in another way, and looks at the chain: with other bytes the tables
differ and yet all but the bytes is the same. -/
theorem payloads_never_inspected_of_carriers :
    let proposal (id parent : Nat) (payload : Value) : Proposal :=
      .given (.uuid (.ofNat id)) (.uuid (.ofNat 7)) (.uuid (.ofNat parent)) (.int 0) (.text "v0")
        (.text "history") payload (.int 0)
    let steps (first second again : Value) : List Step :=
      [.append (proposal 1 0 first) (some "x"),
        .race (proposal 2 1 second) none [.append (proposal 3 1 first) none],
        .reappend "x" [(.payload, again)],
        .readChain ⟨.uuid (.ofNat 7), "history", .none, none⟩ true,
        .describeChain (.uuid (.ofNat 7)) "history" none]
    let here := steps (.bytes .bytes [1]) (.bytes .memoryview [2]) (.bytes .memoryview [1])
    let there := steps (.bytes .bytearray [3, 4]) (.bytes .bytes []) (.bytes .bytes [3, 4])
    let start := State.initial .empty default none
    (runAll start (here.take 1)).1.database.tables ≠
        (runAll start (there.take 1)).1.database.tables ∧
      (runAll start here).2.map Answer.sealed = (runAll start there).2.map Answer.sealed ∧
      ∀ n, (runAll start (here.take n)).1.sealed = (runAll start (there.take n)).1.sealed := by
  intro proposal steps here there start
  have same : here.map Step.sealed = there.map Step.sealed := rfl
  have blind : ∀ step ∈ here, step.Blind :=
    blindSteps_iff.1 ⟨trivial, ⟨trivial, trivial⟩, trivial, trivial, trivial, trivial⟩
  have spares (carrier second carrier' : Carrier) (content other : List UInt8) : SparesAll start
      (steps (.bytes carrier content) (.bytes second other) (.bytes carrier' content)) := by
    refine ⟨trivial, ⟨trivial, trivial⟩, fun d named => ?_, trivial, trivial, trivial⟩
    intro e idx _ content' stored payload
    obtain rfl := Option.some.inj named
    obtain ⟨rfl, -⟩ := Origin.stored.inj stored
    exact (Value.bytes.inj payload).2.symm
  exact ⟨by decide, payloads_never_inspected rfl same blind (spares ..) (spares ..)⟩

/-- A draft was stored, and its record is gone with the tables: appended once more, it succeeds with
the bytes that it was stored with, and with other bytes it does not, because only these make its
record be written again. -/
theorem changed_payload_is_noticed :
    let proposal : Proposal :=
      .given (.uuid (.ofNat 1)) (.uuid (.ofNat 7)) .none (.int 0) (.text "v0") (.text "history")
        (.bytes .bytes [1]) (.int 0)
    let steps (again : List UInt8) : List Step :=
      [.append proposal (some "x"), .dropTables, .createTables,
        .reappend "x" [(.payload, .bytes .bytes again)]]
    let answers (again : List UInt8) := (runAll (.initial .empty default none) (steps again)).2
    (steps [1]).map Step.sealed = (steps [2, 3]).map Step.sealed ∧
      (∀ step ∈ steps [1], step.Blind) ∧
      (answers [1]).map (·.outcome.isOk) = [true, true, true, true] ∧
      (answers [2, 3]).map (·.outcome.isOk) = [true, true, true, false] ∧
      (answers [1]).map Answer.sealed ≠ (answers [2, 3]).map Answer.sealed := by
  intro proposal steps answers
  have blind : ∀ step ∈ steps [1], step.Blind :=
    blindSteps_iff.1 ⟨trivial, trivial, trivial, trivial, trivial⟩
  have kept : (answers [1]).map (·.outcome.isOk) = [true, true, true, true] := by decide +kernel
  have changed : (answers [2, 3]).map (·.outcome.isOk) = [true, true, true, false] := by
    decide +kernel
  refine ⟨by simp [steps, Step.sealed, sealedChange, Value.sealed], blind, kept, changed, fun same => ?_⟩
  have ends := congrArg (List.map fun answer : Answer => answer.outcome.isOk) same
  simp only [List.map_map, Function.comp_def, Answer.isOk_sealed, kept, changed] at ends
  cases ends

end ChainLog.Session
