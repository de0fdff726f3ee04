/-
# Listings in the order of time

Whatever timestamp an append accepts can be listed: every timestamp that is stored has a text, so
describing a chain never fails for want of one (`Database.description_displays`).  The texts have
one width and the order of the timestamps, so that sorting the listings of a chain by the text of
the timestamp sorts its records by time (`timestamps_sort_as_text`).
-/
import ChainLog.Proofs.ChainReading
import ChainLog.Proofs.FaithfulInspection
import ChainLog.Proofs.Interleaving
import ChainLog.Proofs.TimestampOrder

namespace ChainLog

set_option autoImplicit false

variable {s : Store} {c : ChainName} {r q : Record} {x y : Listing} {l : List Record}
  {listings : List Listing} {db : Database} {size : Int}

/-! ## Sorting alike -/

section

variable {α β : Type} {R : α → β → Prop} {le : α → α → Bool} {le' : β → β → Bool} {a : α} {b : β}
  {as : List α} {bs : List β}

theorem Sorted.insert_forall₂ (same : ∀ a b, R a b → ∀ a' b', R a' b' → le a a' = le' b b')
    (first : R a b) (rest : List.Forall₂ R as bs) :
    List.Forall₂ R (Sorted.insert le a as) (Sorted.insert le' b bs) := by
  induction rest with
  | nil => exact .cons first .nil
  | @cons a' b' as bs related rest ih =>
    rw [Sorted.insert, Sorted.insert, same a b first a' b' related]
    split
    · exact .cons first (.cons related rest)
    · exact .cons related ih

/-- Lists whose elements are related one by one are sorted alike, if related elements are in the
same order. -/
theorem Sorted.sort_forall₂ (same : ∀ a b, R a b → ∀ a' b', R a' b' → le a a' = le' b b')
    (rest : List.Forall₂ R as bs) : List.Forall₂ R (Sorted.sort le as) (Sorted.sort le' bs) := by
  induction rest with
  | nil => exact .nil
  | cons related rest ih => exact Sorted.insert_forall₂ same related ih

end

/-! ## Listings -/

/-- All timestamps are integers of 64 bits. -/
def Store.TimestampsFit (s : Store) : Prop := ∀ r ∈ s.records, r.timestamp.IsInteger

theorem Record.exists_listing (fits : r.timestamp.IsInteger) : ∃ x, r.listing = .ok x := by
  obtain ⟨ns, timestamp, word⟩ := fits
  have text : Time.formatValue r.timestamp.value =
      .ok (String.ofList (Time.fields (Time.ordinal ns))) := by
    rw [timestamp]
    exact Time.format_of_inYears (Time.inYears_of_word word)
  rw [Record.listing, text]
  exact ⟨_, rfl⟩

/-- A listing has the text of the record's timestamp, and of the payload it has the size. -/
theorem Record.listing_eq_ok_iff : r.listing = .ok x ↔
    Time.formatValue r.timestamp.value = .ok x.timestamp ∧
      x = ⟨r.id.text, r.chain.host.text, r.parent.text, x.timestamp, r.version, r.chain.tag,
        r.payload.length, r.userId, r.idx, r.createdAt.unzoned⟩ := by
  unfold Record.listing
  constructor
  · intro listed
    cases text : Time.formatValue r.timestamp.value with
    | error e =>
      rw [text] at listed
      cases listed
    | ok stamp =>
      rw [text] at listed
      obtain rfl := Except.ok.inj listed
      exact ⟨rfl, rfl⟩
  · rintro ⟨text, same⟩
    rw [text, same]
    rfl

/-- Records in the order of their timestamps. -/
def byTime (l : List Record) : List Record :=
  Sorted.sort (fun a b => a.timestamp.atMost b.timestamp) l

/-- Listings in the order of the texts of their timestamps. -/
def byTimestampText (l : List Listing) : List Listing :=
  Sorted.sort (fun a b => !decide (b.timestamp < a.timestamp)) l

/-- Of two records that can be listed, the texts of their timestamps tell which is the earlier. -/
theorem Listing.timestamp_order (fits : r.timestamp.IsInteger) (listed : r.listing = .ok x)
    (fits' : q.timestamp.IsInteger) (listed' : q.listing = .ok y) :
    r.timestamp.atMost q.timestamp = !decide (y.timestamp < x.timestamp) := by
  have text := (Record.listing_eq_ok_iff.1 listed).1
  have text' := (Record.listing_eq_ok_iff.1 listed').1
  obtain ⟨ns, timestamp, word⟩ := fits
  obtain ⟨ns', timestamp', word'⟩ := fits'
  rw [timestamp] at text
  rw [timestamp'] at text'
  have order := Time.format_lt_iff (Time.inYears_of_word word') (Time.inYears_of_word word) text' text
  rw [timestamp, timestamp', Cell.atMost_int, ← decide_not]
  simp only [order, Int.not_lt]

/-- The listings sorted by text are those of the records sorted by time. -/
theorem byTimestampText_listed (fits : ∀ r ∈ l, r.timestamp.IsInteger)
    (listed : List.Forall₂ (fun r x => r.listing = .ok x) l listings) :
    List.Forall₂ (fun r x => r.listing = .ok x) (byTime l) (byTimestampText listings) := by
  have both := (List.forall₂_and_left l listings).2 ⟨fits, listed⟩
  have sorted : List.Forall₂ (fun r x => r.timestamp.IsInteger ∧ r.listing = .ok x) (byTime l)
      (byTimestampText listings) :=
    Sorted.sort_forall₂ (fun _ _ first _ _ second =>
      Listing.timestamp_order first.1 first.2 second.1 second.2) both
  exact sorted.imp fun _ _ related => related.2

/-! ## Descriptions -/

/-- Records whose timestamps have 64 bits can all be listed. -/
theorem exists_listings (fits : ∀ r ∈ l, r.timestamp.IsInteger) :
    ∃ listings, l.mapM Record.listing = .ok listings ∧
      List.Forall₂ (fun r x => r.listing = .ok x) l listings :=
  exists_mapM fun r member => (Record.exists_listing (fits r member)).imp fun _ listed => ⟨listed, listed⟩

/-- However the reading of a chain ends, no text is missing for a timestamp in it. -/
theorem Database.description_displays (found : db.store = .ok s) (fits : s.TimestampsFit)
    (c : ChainName) (service : Service) (log : List LogLine) (e : Time.DisplayError) :
    db.describeChain c service ≠ (log, .error (.display e)) := by
  intro described
  unfold describeChain at described
  split at described
  · cases described
  · rename_i k begun
    obtain ⟨listings, listed, -⟩ := exists_listings (l := (k.read db).records)
      fun r member => fits r (Chain.stored_of_read found member)
    have outcome := (Prod.mk.inj described).2
    unfold Reading.listings at outcome
    cases ended : (k.read db).failure? with
    | none =>
      rw [listed, ended] at outcome
      cases outcome
    | some failure =>
      rw [listed, ended] at outcome
      cases outcome

/-- The description of a chain that there is has a listing for each of its records, in order. -/
theorem Database.description_lists (found : db.store = .ok s) (sound : s.Sound)
    (fits : s.TimestampsFit) (existing : s.tip? c ≠ none) (word : IsWord size) (nonzero : size ≠ 0) :
    ∃ log listings, db.describeChain c ⟨size⟩ = (log, .ok listings) ∧
      List.Forall₂ (fun r x => r.listing = .ok x) (s.ofChain c) listings := by
  obtain ⟨t, tip⟩ := Option.ne_none_iff_exists'.1 existing
  obtain ⟨listings, listed, each⟩ := exists_listings (l := s.ofChain c)
    fun r member => fits r (Store.mem_ofChain.1 member).1
  have read := Chain.read_eq (k := ⟨c, .int 0, size⟩) (p := 0) sound found word nonzero rfl
  exact ⟨_, listings, Database.describeChain_eq found tip read listed, each⟩

/-! ## Accepted timestamps -/

/-- Whatever is appended, all timestamps that are stored have 64 bits. -/
theorem Scene.run_timestampsFit (stamp : Option Bool) (moves : List Move) :
    ∃ s, ((opening stamp).run moves).Sound s ∧ s.TimestampsFit :=
  run_records (sound_opening stamp) (fun r member => by cases member)
    (fun d d' e c version idx now settled =>
      ⟨e.timestamp, rfl, (Draft.isWord_of_check (Draft.check_of_settle settled)).1⟩) moves

/-- **Timestamps sort as texts.**  Of two timestamps that pass the check of an append the texts have
thirty characters and are in the order of the two.  After any run every description of a chain has
the texts that it needs, and the listings of a chain sorted by the text of the timestamp are those
of its records sorted by time. -/
theorem timestamps_sort_as_text :
    (∀ v w a b, Draft.checkWord .timestamp v = .ok a → Draft.checkWord .timestamp w = .ok b → a < b →
      ∃ x y, Time.format a = .ok x ∧ Time.format b = .ok y ∧ x.length = 30 ∧ y.length = 30 ∧ x < y) ∧
    ∀ stamp moves, ∃ s, ((Scene.opening stamp).run moves).database.store = .ok s ∧
      (∀ c service log e, ((Scene.opening stamp).run moves).database.describeChain c service ≠
        (log, .error (.display e))) ∧
      ∀ c size, s.tip? c ≠ none → IsWord size → size ≠ 0 →
        ∃ log listings, ((Scene.opening stamp).run moves).database.describeChain c ⟨size⟩ =
            (log, .ok listings) ∧
          List.Forall₂ (fun r x => r.listing = .ok x) (s.ofChain c) listings ∧
          List.Forall₂ (fun r x => r.listing = .ok x) (byTime (s.ofChain c))
            (byTimestampText listings) := by
  refine ⟨fun v w a b passed passed' before => ?_, fun stamp moves => ?_⟩
  · have inside := Time.inYears_of_word (Draft.checkWord_eq_ok passed).2
    have inside' := Time.inYears_of_word (Draft.checkWord_eq_ok passed').2
    have text := Time.format_of_inYears inside
    have text' := Time.format_of_inYears inside'
    refine ⟨_, _, text, text', ?_, ?_, (Time.format_lt_iff inside inside' text text').2 before⟩
    · rw [String.length_ofList, Time.length_fields]
    · rw [String.length_ofList, Time.length_fields]
  · obtain ⟨s, sound, fits⟩ := Scene.run_timestampsFit stamp moves
    refine ⟨s, sound.found, Database.description_displays sound.found fits,
      fun c size existing word nonzero => ?_⟩
    obtain ⟨log, listings, described, listed⟩ :=
      Database.description_lists sound.found sound.store fits existing word nonzero
    exact ⟨log, listings, described, listed,
      byTimestampText_listed (fun r member => fits r (Store.mem_ofChain.1 member).1) listed⟩

/-- The latest of all timestamps is appended before the earliest: sorted by text the listings are
the other way round. -/
theorem timestamps_sort_as_text_of_two :
    let append (id parent : Nat) (ns : Int) : List Move :=
      [.look ⟨{ Draft.numbered id parent "history" (.text "v0") with timestamp := .int ns }, rfl⟩
        default, .write 0 default]
    let db := ((Scene.opening none).run
      (append 1 0 0x7fffffffffffffff ++ append 2 1 (-0x8000000000000000))).database
    (∃ x y, Time.format (-0x8000000000000000) = .ok x ∧ Time.format 0x7fffffffffffffff = .ok y ∧
      x.length = 30 ∧ y.length = 30 ∧ x < y) ∧
    ∃ log listings, db.describeChain ⟨.ofNat 7, .text "history"⟩ ⟨1⟩ = (log, .ok listings) ∧
      (byTimestampText listings).map Listing.id = [(Uuid.ofNat 2).text, (Uuid.ofNat 1).text] := by
  intro append db
  let c : ChainName := ⟨.ofNat 7, .text "history"⟩
  let record (id parent : Nat) (ns idx : Int) : Record :=
    ⟨.ofNat id, c, .ofNat parent, .int ns, .text "v0", [], .int 0, .int idx, default⟩
  let s : Store := ⟨[record 1 0 0x7fffffffffffffff 0, record 2 1 (-0x8000000000000000) 1],
    [⟨c, .int 0, .ofNat 2, .int 2, default⟩]⟩
  have tables : db.store = .ok s := rfl
  obtain ⟨order, runs⟩ := timestamps_sort_as_text
  refine ⟨order (.int (-0x8000000000000000)) (.int 0x7fffffffffffffff) _ _ rfl rfl (by decide), ?_⟩
  obtain ⟨_, found, -, described⟩ := runs none _
  obtain rfl := Except.ok.inj (tables.symm.trans found)
  obtain ⟨log, listings, description, -, sorted⟩ :=
    described c 1 (Option.some_ne_none _) (by decide) (by decide)
  refine ⟨log, listings, description, ?_⟩
  have ascending : byTime (s.ofChain c) =
      [record 2 1 (-0x8000000000000000) 1, record 1 0 0x7fffffffffffffff 0] := rfl
  rw [ascending] at sorted
  generalize byTimestampText listings = rows at sorted
  obtain _ | ⟨first, _ | ⟨second, _ | _⟩⟩ := sorted
  rw [List.map_cons, List.map_cons, (Record.listing_eq_ok_iff.1 first).2,
    (Record.listing_eq_ok_iff.1 second).2]
  rfl

end ChainLog
