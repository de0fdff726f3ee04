/-
# The page size that is set

A text that is set for the page size is accepted exactly if it denotes a number from one on, and that
number is the page size of the service (`page_size_exact`).  What a text denotes is said by the
grammar of numerals (`Denotes`), so neither the reader nor the limit that it checks on the way is
part of the statement.

The usual text of a number denotes it (`denotes_toString`): its characters are the plain digits, which
are a run without underscores.
-/
import ChainLog.Proofs.NumeralGrammar
import ChainLog.Session.Run

namespace ChainLog

set_option autoImplicit false

/-! ## Plain digits -/

namespace Text.Numeral

variable {c : Char} {s : List Char}

theorem decimalDigit?_of_isDigit (digit : c.isDigit = true) :
    decimalDigit? c = some (c.toNat - '0'.toNat) := by
  have bounds : 48 ≤ c.toNat ∧ c.toNat ≤ 57 := Char.isDigit_iff_toNat.1 digit
  have first : 48 ≤ c.toNat ∧ c.toNat < 48 + 10 := ⟨bounds.1, Nat.lt_succ_of_le bounds.2⟩
  simp [decimalDigit?, zeroDigits, first]

/-- Plain digits are a run. -/
theorem run_of_isDigit (nonempty : s ≠ []) (digits : ∀ c ∈ s, c.isDigit = true) :
    Run .ten s (s.map fun c => c.toNat - '0'.toNat) := by
  induction s with
  | nil => exact absurd rfl nonempty
  | cons c s ih =>
    have first : Base.ten.digit? c = some (c.toNat - '0'.toNat) :=
      digit?_of_decimalDigit? (decimalDigit?_of_isDigit (digits c List.mem_cons_self))
    cases s with
    | nil => exact .last first
    | cons k s =>
      exact .next first (ih (List.cons_ne_nil k s) fun e member => digits e (.tail c member))

/-- The value of plain digits is the number that they are the digits of. -/
theorem valueOf_of_isDigit (s : List Char) :
    valueOf .ten (s.map fun c => c.toNat - '0'.toNat) = Nat.ofDigitChars 10 s 0 := by
  rw [valueOf, List.foldl_map, Nat.ofDigitChars]
  simp only [Base.value, Nat.mul_comm 10]

end Text.Numeral

namespace Settings

open Text

variable {environment : List (String × String)} {text : String} {n : Int} {s : Settings}
  {e : SettingsError}

/-! ## What a text denotes -/

/-- Apart from blanks around it, the text is decimal digits with single underscores between digits
only, and perhaps a sign before them; the digits, at most 4300, denote the number. -/
def Denotes (text : String) (n : Int) : Prop :=
  ∃ negative ds, Numeral.Spelled .ten text.toList negative ds ∧ ds.length ≤ 4300 ∧
    n = Numeral.signed negative (Nat.ofDigits 10 ds.reverse)

theorem read_eq_ok_iff : Numeral.read .ten text.toList = .ok n ↔ Denotes text n := by
  have limit (count : Nat) : (∀ l ∈ Numeral.Base.ten.digitLimit?, count ≤ l) ↔ count ≤ 4300 := by
    simp only [Numeral.Base.digitLimit?, Option.mem_some_iff, forall_eq']
  simp only [Numeral.read_eq_ok_iff, limit]
  exact Iff.rfl

/-- The usual text of a number denotes it. -/
theorem denotes_toString {n : Nat} (short : (toString n).length ≤ 4300) :
    Denotes (toString n) n := by
  have written : (toString n).toList = Nat.toDigits 10 n := Nat.toList_repr
  have digits : ∀ c ∈ Nat.toDigits 10 n, c.isDigit = true :=
    fun c => Nat.isDigit_of_mem_toDigits (by decide) (by decide)
  have run := Numeral.run_of_isDigit Nat.toDigits_ne_nil digits
  have spelled : Numeral.Spelled .ten ([] ++ ([] ++ ([] ++ (Nat.toDigits 10 n ++ [])))) false _ :=
    .intro (by simp) .absent (.absent _) run (by simp)
  rw [List.nil_append, List.nil_append, List.nil_append, List.append_nil, ← written] at spelled
  refine ⟨false, _, spelled, ?_, ?_⟩
  · rwa [List.length_map, String.length_toList]
  · have value := Numeral.valueOf_eq_ofDigits .ten
      ((toString n).toList.map fun c => c.toNat - '0'.toNat)
    rw [Numeral.valueOf_of_isDigit, written, Nat.ofDigitChars_toDigits (by decide) (by decide)] at value
    rw [written]
    exact congrArg Int.ofNat value

/-! ## What is set -/

theorem readPageSize_eq_ok_iff : readPageSize text = .ok n ↔ Denotes text n ∧ 1 ≤ n := by
  rw [← read_eq_ok_iff, readPageSize]
  constructor
  · intro read
    split at read
    · cases read
    · split at read
      · cases read
      · rename_i m number positive
        obtain rfl := Except.ok.inj read
        exact ⟨number, Int.not_lt.1 positive⟩
  · rintro ⟨number, positive⟩
    rw [number]
    exact if_neg (Int.not_lt.2 positive)

/-- Why a text is refused. -/
theorem readPageSize_eq_error (refused : readPageSize text = .error e) :
    (∃ cause, e = .pageSizeNumeral text cause ∧ ∀ n, ¬ Denotes text n) ∨
      ∃ n, e = .pageSizeNotPositive n ∧ Denotes text n ∧ n < 1 := by
  simp only [← read_eq_ok_iff]
  unfold readPageSize at refused
  split at refused
  · rename_i cause unread
    obtain rfl := Except.error.inj refused
    refine .inl ⟨cause, rfl, fun n number => ?_⟩
    cases unread.symm.trans number
  · rename_i m number
    split at refused
    · rename_i small
      obtain rfl := Except.error.inj refused
      exact .inr ⟨m, rfl, number, small⟩
    · cases refused

/-- Only the page size can be refused. -/
theorem ofEnvironment_of_set (set : environment.lookup "RECORD_STORE_PAGE_SIZE" = some text) :
    ofEnvironment environment = (readPageSize text).map fun n =>
      ⟨(environment.lookup "SQLALCHEMY_DATABASE_URI").getD defaultDatabaseUri, n,
        uppercase ((environment.lookup "RECORD_STORE_LOG_LEVEL").getD "INFO")⟩ := by
  rw [ofEnvironment, set, Option.elim_some]
  cases readPageSize text <;> rfl

theorem pageSize_of_set (set : environment.lookup "RECORD_STORE_PAGE_SIZE" = some text) :
    (∃ s, ofEnvironment environment = .ok s ∧ s.pageSize = n) ↔ readPageSize text = .ok n := by
  rw [ofEnvironment_of_set set]
  constructor
  · rintro ⟨s, settled, rfl⟩
    cases read : readPageSize text with
    | error e =>
      rw [read] at settled
      cases settled
    | ok m =>
      rw [read] at settled
      obtain rfl := Except.ok.inj settled
      rfl
  · intro read
    rw [read]
    exact ⟨_, rfl, rfl⟩

theorem error_of_set (set : environment.lookup "RECORD_STORE_PAGE_SIZE" = some text) :
    ofEnvironment environment = .error e ↔ readPageSize text = .error e := by
  rw [ofEnvironment_of_set set]
  cases readPageSize text with
  | error f => simp only [Except.map, Except.error.injEq]
  | ok n => simp only [Except.map, reduceCtorEq]

/-- The container is set up with the page size of the settings, and its service reads with it. -/
theorem container_of_settled (settled : ofEnvironment environment = .ok s) (state : Session.State) :
    (state.container (.environment environment)).2 = .ok (.container s.pageSize s.pageSize) [] := by
  simp only [Session.State.container, settled, service_eq (pageSize_pos settled)]

/-- **The page size that is set.**  Settings are made from the texts that denote a number from one on,
and that number is their page size.  Every other text is refused: it denotes no number, or one
that is too small.  The usual text of a number of at most 4300 digits is read back.  However settings
are made, the service of the container reads with their page size. -/
theorem page_size_exact :
    (∀ environment text, environment.lookup "RECORD_STORE_PAGE_SIZE" = some text →
      (∀ n, (∃ s, ofEnvironment environment = .ok s ∧ s.pageSize = n) ↔ Denotes text n ∧ 1 ≤ n) ∧
      (∀ e, ofEnvironment environment = .error e →
        (∃ cause, e = .pageSizeNumeral text cause ∧ ∀ n, ¬ Denotes text n) ∨
          ∃ n, e = .pageSizeNotPositive n ∧ Denotes text n ∧ n < 1) ∧
      (∀ n : Nat, 1 ≤ n → (toString n).length ≤ 4300 → text = toString n →
        ∃ s, ofEnvironment environment = .ok s ∧ s.pageSize = n)) ∧
    ∀ environment s, ofEnvironment environment = .ok s →
      s.service = ⟨s.pageSize⟩ ∧ ∀ state : Session.State,
        (state.container (.environment environment)).2 = .ok (.container s.pageSize s.pageSize) [] := by
  refine ⟨fun environment text set => ⟨fun n => ?_, fun e refused => ?_, fun n positive short same => ?_⟩,
    fun environment s settled => ⟨service_eq (pageSize_pos settled), container_of_settled settled⟩⟩
  · rw [pageSize_of_set set, readPageSize_eq_ok_iff]
  · exact readPageSize_eq_error ((error_of_set set).1 refused)
  · rw [pageSize_of_set set, readPageSize_eq_ok_iff, same]
    exact ⟨denotes_toString short, Int.ofNat_le.2 positive⟩

/-- Blanks, a plus and an underscore are accepted; nought is refused. -/
theorem page_size_exact_of_signed :
    let set (text : String) := [("RECORD_STORE_PAGE_SIZE", text)]
    let s : Settings := ⟨defaultDatabaseUri, 10, "INFO"⟩
    ofEnvironment (set " +1_0 ") = .ok s ∧ Denotes " +1_0 " 10 ∧ s.service = ⟨10⟩ ∧
      (∃ s, ofEnvironment (set (toString 25)) = .ok s ∧ s.pageSize = 25) ∧
      ofEnvironment (set "0") = .error (.pageSizeNotPositive 0) ∧ Denotes "0" 0 := by
  intro set s
  have settled : ofEnvironment (set " +1_0 ") = .ok s := by decide +kernel
  have refused : ofEnvironment (set "0") = .error (.pageSizeNotPositive 0) := by decide +kernel
  have signed := page_size_exact.1 (set " +1_0 ") _ rfl
  have usual := page_size_exact.1 (set (toString 25)) _ rfl
  have nought := page_size_exact.1 (set "0") _ rfl
  refine ⟨settled, ((signed.1 10).1 ⟨s, settled, rfl⟩).1, (page_size_exact.2 _ s settled).1,
    usual.2.2 25 (by decide) (by decide) rfl, refused, ?_⟩
  rcases nought.2.1 _ refused with ⟨_, other, -⟩ | ⟨n, same, denotes, -⟩
  · cases other
  · obtain rfl := SettingsError.pageSizeNotPositive.inj same
    exact denotes

end Settings

end ChainLog
