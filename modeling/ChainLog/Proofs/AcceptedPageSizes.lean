/-
# Reading with the page sizes that settings accept

Settings accept every page size from one on.  The limit of a page is a parameter of 64 bits, so there
are two cases (`accepted_page_sizes`): with a page size that is such an integer every chain is read
and checked to its end, and with a larger one no chain is, whatever its length, since the first page
cannot be asked for (`Chain.read_of_large`).  Unlike a service, which is made with any page size,
settings do check theirs, but from below only.
-/
import ChainLog.Proofs.AppendOnly
import ChainLog.Proofs.ConcurrentReaders
import ChainLog.Settings

namespace ChainLog

set_option autoImplicit false

variable {s : Store} {c : ChainName} {db : Database} {k : Chain} {size : Int} {row : Tip}

/-! ## Limits that are no parameters -/

/-- With too large a limit not even the first page of a chain can be read. -/
theorem Chain.read_of_large (sound : s.Sound) (found : db.store = .ok s)
    (existing : s.tip? k.name ≠ none) (begins : k.start = .int 0) (large : ¬ IsWord k.pageSize) :
    k.read db = .failed (.storage (.parameter .tooLarge)) := by
  obtain ⟨row, tip⟩ := Option.ne_none_iff_exists'.1 existing
  have nonempty : (0 : Int) < (s.ofChain k.name).length :=
    Int.ofNat_lt.2 (List.length_pos_iff.2 (sound.tops k.name row tip).nonempty)
  have ends := Cell.ends_counted (sound.bounded k.name)
  have refused : db.page k (.int 0) (.counted (s.ofChain k.name).length) =
      .error (.parameter .tooLarge) := by
    have position : (Cell.int 0).parameter = .ok (.int 0) := Cell.parameter_int (by decide)
    unfold Database.page
    rw [found, position, ends.parameter]
    exact if_neg large
  obtain ⟨fuel, pages⟩ : ∃ fuel, pageBound (.int 0) (.counted (s.ofChain k.name).length) = fuel + 1 := by
    have enough := ends.le_pageBound (p := 0)
    exact Nat.exists_eq_add_one.2 (by omega)
  rw [read, readWith, found]
  simp only [readUpTo, sound.lengthOf, begins, pages, pagesFrom, ends.isBelow?, nonempty, decide_true,
    refused]

/-- A check ends as its reading does if that has no records. -/
theorem Tip.check_failed (row : Tip) (e : ReadFailure) : row.check (.failed e) = .error e := rfl

/-! ## Reading from the head -/

/-- An existing chain can be asked for from its head. -/
theorem Store.Sound.chain_of_nil (sound : s.Sound) (found : db.store = .ok s)
    (existing : s.tip? c ≠ none) : db.chain c Uuid.nil size = .ok ⟨c, .int 0, size⟩ := by
  obtain ⟨start, starts, after⟩ := sound.startAfter_of_chain existing (.inl rfl)
  obtain rfl : start = 0 := after
  simp only [Database.chain, found, starts]
  rfl

theorem Database.verify_of_tip (found : db.store = .ok s) (tip : s.tip? c = some row) :
    db.verify c size = row.verifyWith size db fun _ => db := by
  simp only [verify, tipRow, found, tip]

/-- **Accepted page sizes.**  For every page size that settings accept, in every reachable state each
chain can be asked for by the service that reads with it.  If the page size is a 64-bit integer, the
reading has the whole chain in order and the check finds its length.  If it is larger, both fail at
their first page. -/
theorem accepted_page_sizes (stamp : Option Bool) (before : List Move)
    {environment : List (String × String)} {settings : Settings}
    (settled : Settings.ofEnvironment environment = .ok settings)
    (found : ((Scene.opening stamp).run before).database.store = .ok s) (existing : s.tip? c ≠ none) :
    let db := ((Scene.opening stamp).run before).database
    ∃ k, db.chain c Uuid.nil settings.service.pageSize = .ok k ∧
      (settings.pageSize < 0x8000000000000000 →
        (k.read db).all = .ok (s.inOrder c) ∧ ∃ n, s.lengthOf c = .counted n ∧
          db.verify c settings.service.pageSize = .ok n) ∧
      (0x8000000000000000 ≤ settings.pageSize →
        (k.read db).all = .error (.storage (.parameter .tooLarge)) ∧
          db.verify c settings.service.pageSize = .error (.storage (.parameter .tooLarge))) := by
  intro db
  obtain ⟨s', sound⟩ := Scene.run_sound (Scene.sound_opening stamp) before
  obtain rfl : s' = s := Except.ok.inj (sound.found.symm.trans found)
  have positive := Settings.pageSize_pos settled
  obtain ⟨row, tip⟩ := Option.ne_none_iff_exists'.1 existing
  rw [Settings.service_eq positive]
  refine ⟨_, sound.store.chain_of_nil found existing, fun small => ?_, fun large => ?_⟩
  · have word : IsWord settings.pageSize := ⟨by omega, small⟩
    have nonzero : settings.pageSize ≠ 0 := by omega
    refine ⟨?_, (s'.ofChain c).length, sound.store.lengthOf c, ?_⟩
    · rw [Chain.read_eq (p := 0) sound.store found word nonzero rfl, sound.store.inOrder]
      rfl
    · rw [Database.verify_of_tip found tip, sound.store.verify found tip word nonzero]
  · have no_word : ¬ IsWord settings.pageSize := fun word => absurd word.2 (Int.not_lt.2 large)
    have failed := Chain.read_of_large (k := ⟨c, .int 0, settings.pageSize⟩) sound.store found existing
      rfl no_word
    refine ⟨by rw [failed]; rfl, ?_⟩
    obtain ⟨-, named⟩ := (Store.tip?_eq_some_iff sound.store.keys).1 tip
    rw [Database.verify_of_tip found tip, Tip.verifyWith, named, ← Chain.read, failed, Tip.check_failed]

/-- A chain of two records, read in pages of one. -/
theorem accepted_page_sizes_of_one :
    let c : ChainName := ⟨.ofNat 7, .text "history"⟩
    let σ := (Scene.opening none).run
      [.look ⟨.numbered 1 0 "history" (.text "v0"), rfl⟩ default, .write 0 default,
        .look ⟨.numbered 2 1 "history" (.text "v0"), rfl⟩ default, .write 0 default]
    let settings : Settings := ⟨Settings.defaultDatabaseUri, 1, "INFO"⟩
    ∃ s k n, Settings.ofEnvironment [("RECORD_STORE_PAGE_SIZE", "1")] = .ok settings ∧
      σ.database.store = .ok s ∧ s.tip? c ≠ none ∧ settings.pageSize < 0x8000000000000000 ∧
      σ.database.chain c Uuid.nil settings.service.pageSize = .ok k ∧
      (k.read σ.database).all = .ok (s.inOrder c) ∧
      σ.database.verify c settings.service.pageSize = .ok n := by
  intro c σ settings
  have settled : Settings.ofEnvironment [("RECORD_STORE_PAGE_SIZE", "1")] = .ok settings := by
    rfl
  obtain ⟨s, found, existing⟩ : ∃ s, σ.database.store = .ok s ∧ s.tip? c ≠ none :=
    ⟨_, rfl, by decide⟩
  obtain ⟨k, asked, small, -⟩ := accepted_page_sizes none _ settled found existing
  obtain ⟨all, n, -, verified⟩ := small (by decide)
  exact ⟨s, k, n, settled, found, existing, by decide, asked, all, verified⟩

/-- Settings accept `2 ^ 63`, and no chain can be read with it. -/
theorem large_page_size_accepted :
    let c : ChainName := ⟨.ofNat 7, .text "history"⟩
    let σ := (Scene.opening none).run
      [.look ⟨.numbered 1 0 "history" (.text "v0"), rfl⟩ default, .write 0 default]
    let settings : Settings := ⟨Settings.defaultDatabaseUri, 0x8000000000000000, "INFO"⟩
    ∃ s k, Settings.ofEnvironment [("RECORD_STORE_PAGE_SIZE", "9223372036854775808")] = .ok settings ∧
      σ.database.store = .ok s ∧ s.tip? c ≠ none ∧
      σ.database.chain c Uuid.nil settings.service.pageSize = .ok k ∧
      (k.read σ.database).all = .error (.storage (.parameter .tooLarge)) ∧
      σ.database.verify c settings.service.pageSize = .error (.storage (.parameter .tooLarge)) :=
  ⟨_, _, rfl, rfl, by decide, rfl, rfl, rfl⟩

end ChainLog
