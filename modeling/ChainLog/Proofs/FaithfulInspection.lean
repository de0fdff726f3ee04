/-
# Faithful inspection

What the inspection command prints of a chain and the code that it ends with are true
(`inspection_faithful`).  It ends with 1 exactly if there is no tip row, with 0 exactly if the chain
passes the check, and else with 2; and unless there is no tip row it has printed one line for each
record of the chain from the start up to its length, in order, whatever the check finds afterwards.

Nothing is asked of the links, only that the columns hold what they are declared to
(`Store.Typed`).  Then a chain can be read and checked, however damaged it is, and each of its
records has a line (`Record.Typed.exists_listing`), since every timestamp of 64 bits has a text.
-/
import ChainLog.CommandLine.Inspect
import ChainLog.Proofs.IdentifierSpellings
import ChainLog.Proofs.ExactVerification
import ChainLog.Proofs.InvisiblePaging
import ChainLog.Proofs.TimestampText
import Mathlib.Data.List.Forall2

namespace ChainLog

set_option autoImplicit false

variable {s : Store} {c : ChainName} {t : Tip} {r : Record} {l : List Record} {db : Database}
  {size : Int} {host : Uuid} {tag : String} {settings : Settings} {level : Level}
  {environment : List (String × String)}

/-! ## Typed tables -/

/-- The cell holds an integer of 64 bits. -/
def Cell.IsInteger (a : Cell) : Prop := ∃ n, a = .int n ∧ IsWord n

/-- The cell holds a text. -/
def Cell.IsText (a : Cell) : Prop := ∃ x, a = .text x

/-- The columns of a record hold what they are declared to. -/
structure Record.Typed (r : Record) : Prop where
  tag : r.chain.tag.IsText
  timestamp : r.timestamp.IsInteger
  version : r.version.IsText
  userId : r.userId.IsInteger
  idx : r.idx.IsInteger

/-- The columns of a tip row hold what they are declared to. -/
structure Tip.Typed (t : Tip) : Prop where
  tag : t.chain.tag.IsText
  userId : t.userId.IsInteger
  length : t.length.IsInteger

structure Store.Typed (s : Store) : Prop where
  records : ∀ r ∈ s.records, r.Typed
  tips : ∀ t ∈ s.tips, t.Typed

/-- Such a cell is a number, a parameter, and not past all positions. -/
theorem Cell.IsInteger.bounded {a : Cell} (integer : a.IsInteger) :
    a.rank = 0 ∧ a.parameter = .ok a ∧ a.atMost (.int 0x8000000000000000) = true := by
  obtain ⟨n, rfl, word⟩ := integer
  refine ⟨rfl, Cell.parameter_int word, ?_⟩
  rw [Cell.atMost_int, decide_eq_true_eq]
  exact Int.le_of_lt word.2

namespace Store.Typed

theorem length (typed : s.Typed) (keys : s.KeysHold) (tip : s.tip? c = some t) :
    t.length.IsInteger ∧ s.lengthOf c = t.length :=
  ⟨(typed.tips t ((Store.tip?_eq_some_iff keys).1 tip).1).length,
    by rw [Store.lengthOf, tip, Option.elim_some]⟩

/-- A typed chain can be read from any position on. -/
theorem pageable (typed : s.Typed) (keys : s.KeysHold) (tip : s.tip? c = some t) (start : Int) :
    s.Pageable c start := by
  obtain ⟨integer, length⟩ := typed.length keys tip
  obtain ⟨number, stored, bounded⟩ := integer.bounded
  rw [← length] at number stored bounded
  exact ⟨number, stored, fun r member _ _ => (typed.records r (mem_ofChain.1 member).1).idx,
    .inl bounded⟩

/-- A typed chain can be checked. -/
theorem countable (typed : s.Typed) (keys : s.KeysHold) (tip : s.tip? c = some t) :
    s.Countable t := by
  obtain ⟨number, stored, bounded⟩ := (typed.length keys tip).1.bounded
  refine ⟨number, stored, fun r member _ _ => ?_, .inl bounded⟩
  obtain ⟨i, idx, -⟩ := (typed.records r (mem_ofChain.1 member).1).idx
  exact ⟨i, by rw [idx, Cell.same_refl], fun _ => idx⟩

end Store.Typed

/-! ## Lines -/

/-- A line that tells of a record all but its payload, of which it tells the size; the timestamp
in it is a text that denotes its nanoseconds. -/
def Record.Shows (r : Record) (line : String) : Prop :=
  ∃ (idx user ns : Int) (version stamp : String),
    r.idx = .int idx ∧ r.userId = .int user ∧ r.timestamp = .int ns ∧ r.version = .text version ∧
    Time.denoted? stamp.toList = some ns ∧
    line = Text.Padded.right 6 (toString idx) ++ "  " ++ r.id.text ++ "  parent=" ++ r.parent.text
      ++ "  " ++ stamp ++ "  " ++ version ++ "  user=" ++ toString user ++ "  "
      ++ toString r.payload.length ++ "B"

/-- A typed record can be listed. -/
theorem Record.Typed.exists_listing (typed : r.Typed) :
    ∃ x, r.listing = .ok x ∧ r.Shows x.line := by
  obtain ⟨ns, timestamp, word⟩ := typed.timestamp
  obtain ⟨user, userId, -⟩ := typed.userId
  obtain ⟨i, idx, -⟩ := typed.idx
  obtain ⟨version, isText⟩ := typed.version
  obtain ⟨least, most⟩ := Time.year_of_word word
  obtain ⟨stamp, formatted, denoted⟩ :=
    Time.format_denotes (Int.le_trans (by decide) least) (Int.le_trans most (by decide))
  refine ⟨⟨r.id.text, r.chain.host.text, r.parent.text, stamp, r.version, r.chain.tag,
    r.payload.length, r.userId, r.idx, r.createdAt.unzoned⟩, ?_,
    i, user, ns, version, stamp, idx, userId, timestamp, isText, denoted, ?_⟩
  · have value : Time.formatValue r.timestamp.value = .ok stamp := by
      rw [timestamp]
      exact formatted
    rw [Record.listing, value]
    rfl
  · simp only [Listing.line, idx, userId, isText]
    rfl

/-- A partial map that gives each element of a list a related value gives the list such values. -/
theorem exists_mapM {ε α β : Type} {f : α → Except ε β} {R : α → β → Prop} {as : List α}
    (each : ∀ a ∈ as, ∃ b, f a = .ok b ∧ R a b) :
    ∃ bs, as.mapM f = .ok bs ∧ List.Forall₂ R as bs := by
  induction as with
  | nil => exact ⟨[], rfl, .nil⟩
  | cons a as ih =>
    obtain ⟨b, first, related⟩ := each a List.mem_cons_self
    obtain ⟨bs, rest, all⟩ := ih fun a' member => each a' (List.mem_cons_of_mem a member)
    refine ⟨b :: bs, ?_, .cons related all⟩
    rw [List.mapM_cons, first, rest]
    rfl

/-- What is described is what a reading from the start has. -/
theorem Database.describeChain_eq {listings : List Listing} (found : db.store = .ok s)
    (tip : s.tip? c = some t) (read : (⟨c, .int 0, size⟩ : Chain).read db = ⟨l, none⟩)
    (listed : l.mapM Record.listing = .ok listings) :
    db.describeChain c ⟨size⟩ = ([LogLine.reading c (.int 0)], .ok listings) := by
  have start : db.chain c Uuid.nil size = .ok ⟨c, .int 0, size⟩ := by
    simp only [Database.chain, found, Store.startAfter, tip]
    rfl
  unfold describeChain
  simp only [start, read, Reading.listings, listed]
  rfl

/-! ## What is printed -/

/-- The output is one line for each record of the chain from the start up to the length in its tip
row, in order. -/
def Store.Prints (s : Store) (t : Tip) (output : String) : Prop :=
  ∃ (n : Int) (l : List Record) (lines : List String),
    t.length = .int n ∧
    (∀ r, r ∈ l ↔ r ∈ s.records ∧ r.chain = t.chain ∧ ∃ i, r.idx = .int i ∧ 0 ≤ i ∧ i < n) ∧
    (l.Pairwise fun a b => ∃ i j, a.idx = .int i ∧ b.idx = .int j ∧ i < j) ∧
    List.Forall₂ Record.Shows l lines ∧
    output = String.join (lines.map (· ++ "\n"))

/-- A chain with a tip row is listed, whatever is wrong with its links. -/
theorem Database.exists_description (found : db.store = .ok s) (keys : s.KeysHold) (typed : s.Typed)
    (tip : s.tip? c = some t) (word : IsWord size) (nonzero : size ≠ 0) :
    ∃ log listings, db.describeChain c ⟨size⟩ = (log, .ok listings) ∧
      s.Prints t (CommandLine.lines listings) := by
  obtain ⟨⟨n, length, -⟩, same⟩ := typed.length keys tip
  obtain ⟨-, chain⟩ := (Store.tip?_eq_some_iff keys).1 tip
  have read := (typed.pageable keys tip 0).read found keys (by decide) word nonzero
  rw [same, length] at read
  have all_typed : ∀ r ∈ s.window c (.int 0) (.int n), r.Typed := fun r member =>
    typed.records r (Store.mem_window.1 member).1
  obtain ⟨listings, listed, shown⟩ := exists_mapM fun r member => (all_typed r member).exists_listing
  refine ⟨_, listings, Database.describeChain_eq found tip read listed, n,
    s.window c (.int 0) (.int n), listings.map Listing.line, length, fun r => ?_, ?_,
    List.forall₂_map_right_iff.2 shown, ?_⟩
  · rw [Store.mem_window, chain]
    refine and_congr_right fun stored => and_congr_right fun _ => ?_
    obtain ⟨i, idx, -⟩ := (typed.records r stored).idx
    simp [idx, Cell.atMost_int, Cell.below_int]
  · refine (List.Pairwise.and_mem.1 (Store.window_strict keys)).imp ?_
    rintro a b ⟨first, second, below⟩
    obtain ⟨i, earlier, -⟩ := (all_typed a first).idx
    obtain ⟨j, later, -⟩ := (all_typed b second).idx
    rw [earlier, later, Cell.below_int, decide_eq_true_eq] at below
    exact ⟨i, j, earlier, later, below⟩
  · rw [List.map_map]
    rfl

/-- The check of a typed chain finds that it links up, or else a defect. -/
theorem Database.verify_of_typed (found : db.store = .ok s) (keys : s.KeysHold) (typed : s.Typed)
    (tip : s.tip? c = some t) (word : IsWord size) (nonzero : size ≠ 0) :
    (∃ n, db.verify c size = .ok n) ∨ ∃ b, db.verify c size = .error (.broken b) := by
  have countable := typed.countable keys tip
  obtain ⟨-, rfl⟩ := (Store.tip?_eq_some_iff keys).1 tip
  obtain ⟨fits, rest, split⟩ := s.exists_split t
  obtain ⟨reading, reaches, verified⟩ :=
    split.exists_reading found keys word nonzero tip countable
  rw [verified]
  rcases split.outcome keys countable reaches with ⟨-, passes⟩ | ⟨-, id, defect, fails⟩
  · exact .inl ⟨_, passes⟩
  · exact .inr ⟨_, fails⟩

namespace CommandLine

/-! ## Command lines -/

/-- A word that does not begin with a hyphen is no option. -/
theorem classify_plain {word : String} (plain : word.toList.head? ≠ some '-') :
    classify word = .plain := by
  have mark : word ≠ "--" := by
    rintro rfl
    exact plain rfl
  unfold classify
  rw [if_neg mark]
  cases letters : word.toList with
  | nil => rfl
  | cons a r =>
    have other : a ≠ '-' := by
      rintro rfl
      exact plain (by rw [letters]; rfl)
    split <;> simp_all

theorem wordText_singleton {word : String} (plain : word.toList.head? ≠ some '-') :
    wordText [word] = some word := by
  have mark : word ≠ "--" := by
    rintro rfl
    exact plain rfl
  simp [wordText, mark]

/-- Two words of which neither begins with a hyphen are a host and a tag. -/
theorem read_plain {host tag : String} (first : host.toList.head? ≠ some '-')
    (second : tag.toList.head? ≠ some '-') :
    read [host, tag] = .arguments ⟨some host, tag, none⟩ := by
  have classified : classifyAll [host, tag] = [(host, .plain), (tag, .plain)] := by
    simp only [classifyAll, classify_plain first, classify_plain second]
  unfold read
  rw [classified]
  simp [readWords, Progress.takeRun, takeWord, wordText_singleton first, wordText_singleton second,
    Progress.finish]

/-! ## Ends -/

/-- How the inspection of a chain ends: there is none, or it is printed and then passes the check
or fails it. -/
inductive Ends (s : Store) (c : ChainName) (verified : Except ReadFailure Nat) : Result → Prop
  | absent (missing : s.tip? c = none) (unverified : ∀ n, verified ≠ .ok n) :
      Ends s c verified ⟨1, "", none⟩
  | passed {t : Tip} {n : Nat} {output : String} (tip : s.tip? c = some t)
      (printed : s.Prints t output) (passes : verified = .ok n) :
      Ends s c verified ⟨0, output, none⟩
  | failed {t : Tip} {b : Broken} {output : String} (tip : s.tip? c = some t)
      (printed : s.Prints t output) (fails : verified = .error (.broken b)) :
      Ends s c verified ⟨2, output, none⟩

theorem inspectChain_ends (found : db.store = .ok s) (keys : s.KeysHold) (typed : s.Typed)
    (word : IsWord size) (nonzero : size ≠ 0) (host : Uuid) (tag : String) :
    ∃ log result, inspectChain db ⟨size⟩ host.text tag = (log, .ok result) ∧
      Ends s ⟨host, .text tag⟩ (db.verify ⟨host, .text tag⟩ size) result := by
  unfold inspectChain
  simp only [Uuid.read_text]
  cases tip : s.tip? ⟨host, .text tag⟩ with
  | none =>
    have described : db.describeChain ⟨host, .text tag⟩ ⟨size⟩ =
        ([], .error (.read (.absent (.chain ⟨host, .text tag⟩)))) := by
      simp only [Database.describeChain, Database.chain, found, Store.startAfter, tip]
      rfl
    have fails : db.verify ⟨host, .text tag⟩ size = .error (.absent (.chain ⟨host, .text tag⟩)) := by
      simp only [Database.verify, Database.tipRow, found, tip]
    rw [described]
    refine ⟨_, _, rfl, .absent tip fun n passes => ?_⟩
    rw [fails] at passes
    cases passes
  | some t =>
    obtain ⟨log, listings, described, printed⟩ :=
      Database.exists_description found keys typed tip word nonzero
    rw [described]
    simp only [Database.checkChain]
    -- The lines are out before the check begins, so its outcome only decides the code.
    rcases Database.verify_of_typed found keys typed tip word nonzero with ⟨n, passes⟩ | ⟨b, fails⟩
    · rw [passes]
      exact ⟨_, _, rfl, .passed tip printed rfl⟩
    · rw [fails]
      exact ⟨_, _, rfl, .failed tip printed rfl⟩

/-- With a canonical host and a tag that is no option, the command inspects that chain. -/
theorem inspect_eq {log : List LogLine} {result : Result}
    (settled : Settings.ofEnvironment environment = .ok settings)
    (leveled : settings.level = .ok level) (plain : tag.toList.head? ≠ some '-')
    (inspected : inspectChain db.open ⟨settings.pageSize⟩ host.text tag = (log, .ok result)) :
    inspect db environment [host.text, tag] =
      (db.open, LogLine.atLeast level log, .ok result) := by
  have service := Settings.service_eq (Settings.pageSize_pos settled)
  unfold inspect
  rw [read_plain host.head?_text plain]
  simp only [settled, leveled, perform, host.text_ne_empty, if_false, service, inspected]

/-- **The inspection is faithful.**  On typed tables that obey their keys the command always ends
with a code: with 1 exactly if there is no tip row, with 0 exactly if the chain passes the check,
and else with 2.  Unless it ends with 1 it has printed the chain, a line for each record. -/
theorem inspection_faithful (tables : db.tables = some s) (keys : s.KeysHold) (typed : s.Typed)
    (settled : Settings.ofEnvironment environment = .ok settings)
    (leveled : settings.level = .ok level) (bounded : settings.pageSize < 0x8000000000000000)
    (host : Uuid) (plain : tag.toList.head? ≠ some '-') :
    ∃ log code output,
      inspect db environment [host.text, tag] = (db.open, log, .ok ⟨code, output, none⟩) ∧
      (code = 0 ∨ code = 1 ∨ code = 2) ∧
      (code = 1 ↔ s.tip? ⟨host, .text tag⟩ = none) ∧
      (code = 0 ↔ ∃ n, db.open.verify ⟨host, .text tag⟩ settings.pageSize = .ok n) ∧
      (code ≠ 1 → ∃ t, s.tip? ⟨host, .text tag⟩ = some t ∧ s.Prints t output) := by
  have found : db.open.store = .ok s := by
    rw [Database.store, Database.open, tables]
    rfl
  have positive := Settings.pageSize_pos settled
  obtain ⟨log, result, inspected, ends⟩ :=
    inspectChain_ends found keys typed ⟨by omega, bounded⟩ (by omega) host tag
  have run := inspect_eq settled leveled plain inspected
  cases ends with
  | absent missing unverified =>
    refine ⟨_, 1, "", run, .inr (.inl rfl), ?_, ?_, fun other => absurd rfl other⟩
    · simp [missing]
    · simp [unverified]
  | passed tip printed passes =>
    refine ⟨_, 0, _, run, .inl rfl, ?_, ?_, fun _ => ⟨_, tip, printed⟩⟩
    · simp [tip]
    · simp [passes]
  | failed tip printed fails =>
    refine ⟨_, 2, _, run, .inr (.inr rfl), ?_, ?_, fun _ => ⟨_, tip, printed⟩⟩
    · simp [tip]
    · simp [fails]

/-- A damaged chain: the head is dated before 1970 and names a parent, and there is a gap behind it.
Both records are printed, and the code is 2. -/
theorem inspection_faithful_of_gap :
    let host : Uuid := .ofNat 7
    let record (id parent : Nat) (ns idx : Int) : Record :=
      ⟨.ofNat id, ⟨host, .text "history"⟩, .ofNat parent, .int ns, .text "v0", [], .int 0, .int idx,
        default⟩
    let t : Tip := ⟨⟨host, .text "history"⟩, .int 0, .ofNat 3, .int 3, default⟩
    let s : Store := ⟨[record 3 2 (-0x8000000000000000) 2, record 1 9 (-1) 0], [t]⟩
    ∃ log output, inspect ⟨true, some s, none⟩ [("RECORD_STORE_PAGE_SIZE", "1")]
        [host.text, "history"] = (⟨true, some s, none⟩, log, .ok ⟨2, output, none⟩) ∧
      s.Prints t output := by
  intro host record t s
  have keys : s.KeysHold := ⟨by decide, by decide⟩
  have typed : s.Typed := by
    constructor
    · intro r stored
      simp only [s, List.mem_cons, List.not_mem_nil, or_false] at stored
      rcases stored with rfl | rfl <;>
        exact ⟨⟨_, rfl⟩, ⟨_, rfl, by decide⟩, ⟨_, rfl⟩, ⟨_, rfl, by decide⟩, ⟨_, rfl, by decide⟩⟩
    · intro u stored
      obtain rfl := List.mem_singleton.1 stored
      exact ⟨⟨_, rfl⟩, ⟨_, rfl, by decide⟩, ⟨_, rfl, by decide⟩⟩
  let settings : Settings := ⟨Settings.defaultDatabaseUri, 1, "INFO"⟩
  have tables : Database.tables ⟨true, some s, none⟩ = some s := rfl
  have settled : Settings.ofEnvironment [("RECORD_STORE_PAGE_SIZE", "1")] = .ok settings := by
    decide +kernel
  have leveled : settings.level = .ok .info := rfl
  have plain : "history".toList.head? ≠ some '-' := by decide
  obtain ⟨log, code, output, run, codes, absent, passes, printed⟩ :=
    inspection_faithful tables keys typed settled leveled (by decide) host plain
  have present : code ≠ 1 := fun one => by cases absent.1 one
  have defective : code ≠ 0 := fun zero => by
    obtain ⟨n, verified⟩ := passes.1 zero
    cases verified
  obtain rfl : code = 2 := by omega
  obtain ⟨_, tip, lines⟩ := printed present
  obtain rfl := Option.some.inj tip
  exact ⟨log, output, run, lines⟩

end CommandLine

end ChainLog
