/-
# The grammar of numerals

A numeral has blanks, then perhaps a sign, then perhaps a base mark, then a run of digits in which
single underscores stand between digits only, then blanks (`Spelled`).  The digits of all scripts
count, as digits and as the zero of a base mark.  A text is read exactly if it is a numeral and has
no more digits than the base allows, and its value is that of its digits with the sign
(`read_eq_ok_iff`).

The reader brings the characters into their plain form first.  The grammar does not tell a character
from its plain form (`spelled_map_plain`), so it is about the text as it is given.
-/
import ChainLog.Text.Numeral
import Mathlib.Data.List.TakeWhile
import Mathlib.Data.Nat.Digits.Lemmas

namespace ChainLog.Text.Numeral

set_option autoImplicit false

variable {b : Base} {c k : Char} {s run after body : List Char} {ds digits : List Nat} {d : Nat}
  {negative : Bool} {n : Int}

/-! ## The grammar -/

/-- Digits and their values; a single underscore may stand between two of them. -/
inductive Run (b : Base) : List Char → List Nat → Prop
  | last {c : Char} {d : Nat} (digit : b.digit? c = some d) : Run b [c] [d]
  | next {c : Char} {d : Nat} {s : List Char} {ds : List Nat} (digit : b.digit? c = some d)
      (rest : Run b s ds) : Run b (c :: s) (d :: ds)
  | apart {c : Char} {d : Nat} {s : List Char} {ds : List Nat} (digit : b.digit? c = some d)
      (rest : Run b s ds) : Run b (c :: '_' :: s) (d :: ds)

/-- A sign, or none; `true` for minus. -/
inductive Sign : List Char → Bool → Prop
  | absent : Sign [] false
  | plus : Sign ['+'] false
  | minus : Sign ['-'] true

/-- A base mark, or none; one underscore may follow it.  Base 10 has no mark. -/
inductive Mark : Base → List Char → Prop
  | absent (b : Base) : Mark b []
  | given {z x : Char} (zero : decimalDigit? z = some 0) (letter : x = 'x' ∨ x = 'X') :
      Mark .sixteen [z, x]
  | followed {z x : Char} (zero : decimalDigit? z = some 0) (letter : x = 'x' ∨ x = 'X') :
      Mark .sixteen [z, x, '_']

/-- A numeral, with its sign and the values of its digits. -/
inductive Spelled (b : Base) : List Char → Bool → List Nat → Prop
  | intro {before sign mark run after : List Char} {negative : Bool} {ds : List Nat}
      (blank : ∀ c ∈ before, isBlank c = true) (signed : Sign sign negative) (marked : Mark b mark)
      (digits : Run b run ds) (blank' : ∀ c ∈ after, isBlank c = true) :
      Spelled b (before ++ (sign ++ (mark ++ (run ++ after)))) negative ds

/-- A number with its sign. -/
def signed (negative : Bool) (n : Nat) : Int := if negative then -(n : Int) else n

/-! ## Characters -/

/-- No blank is a digit. -/
theorem decimalDigit?_of_isBlank (blank : isBlank c = true) : decimalDigit? c = none := by
  have apart : ∀ r ∈ blankRanges, ∀ z ∈ zeroDigits, z + 10 ≤ r.1 ∨ r.2 < z := by decide
  simp only [isBlank, List.any_eq_true, Bool.and_eq_true, decide_eq_true_eq] at blank
  obtain ⟨r, range, least, most⟩ := blank
  simp only [decimalDigit?, Option.map_eq_none_iff, List.find?_eq_none, Bool.and_eq_true,
    decide_eq_true_eq]
  intro z zero
  have := apart r range z zero
  omega

theorem digit?_of_isBlank (blank : isBlank c = true) : b.digit? c = none := by
  have letter : Base.letter? c = none := by
    have apart : ∀ r ∈ blankRanges, r.2 < 65 ∨ 102 < r.1 := by decide
    simp only [isBlank, List.any_eq_true, Bool.and_eq_true, decide_eq_true_eq] at blank
    obtain ⟨r, range, least, most⟩ := blank
    have := apart r range
    have small (a e : Char) (low : 65 ≤ a.toNat) (high : e.toNat ≤ 102) : ¬ (a ≤ c ∧ c ≤ e) := by
      rintro ⟨above, below⟩
      have above : a.toNat ≤ c.toNat := above
      have below : c.toNat ≤ e.toNat := below
      omega
    rw [Base.letter?, if_neg (small 'a' 'f' (by decide) (by decide)),
      if_neg (small 'A' 'F' (by decide) (by decide))]
  cases b <;> simp [Base.digit?, decimalDigit?_of_isBlank blank, letter]

theorem digit?_lt (digit : b.digit? c = some d) : d < b.value := by
  have ten : 10 ≤ b.value := by cases b <;> decide
  unfold Base.digit? at digit
  split at digit
  · rename_i e decimal
    obtain rfl := Option.some.inj digit
    exact Nat.lt_of_lt_of_le (decimalDigit?_lt c e decimal) ten
  · cases digit
  · unfold Base.letter? at digit
    have code (a e : Char) : a ≤ c ∧ c ≤ e → a.toNat ≤ c.toNat ∧ c.toNat ≤ e.toNat := id
    split at digit
    · rename_i range
      have : 97 ≤ c.toNat ∧ c.toNat ≤ 102 := code 'a' 'f' range
      obtain rfl := Option.some.inj digit
      simp only [Base.value]
      omega
    · split at digit
      · rename_i range
        have : 65 ≤ c.toNat ∧ c.toNat ≤ 70 := code 'A' 'F' range
        obtain rfl := Option.some.inj digit
        simp only [Base.value]
        omega
      · cases digit

/-- What is the same for all blanks, and for all digits of one value, is the same for the plain form
of a character. -/
theorem plain_congr {α : Type} (f : Char → α) (blanks : ∀ c, isBlank c = true → f c = f ' ')
    (digits : ∀ c d, isBlank c = false → decimalDigit? c = some d → f c = f (Char.ofNat (0x30 + d)))
    (c : Char) : f (plain c) = f c := by
  unfold plain
  split
  · rename_i blank
    split
    · rfl
    · exact (blanks c blank).symm
  · rename_i solid
    split
    · rename_i d digit
      exact (digits c d (by simpa using solid) digit).symm
    · rfl

theorem isBlank_plain (c : Char) : isBlank (plain c) = isBlank c := by
  have ten : ∀ d : Fin 10, isBlank (Char.ofNat (0x30 + d.val)) = false := by decide
  refine plain_congr isBlank (fun c blank => blank.trans (by decide)) (fun c d solid digit => ?_) c
  rw [solid, ten ⟨d, decimalDigit?_lt c d digit⟩]

theorem decimalDigit?_plain (c : Char) : decimalDigit? (plain c) = decimalDigit? c := by
  have ten : ∀ d : Fin 10, decimalDigit? (Char.ofNat (0x30 + d.val)) = some d.val := by decide
  refine plain_congr decimalDigit? (fun c blank => ?_) (fun c d solid digit => ?_) c
  · rw [decimalDigit?_of_isBlank blank]
    decide
  · rw [digit, ten ⟨d, decimalDigit?_lt c d digit⟩]

theorem digit?_of_decimalDigit? (digit : decimalDigit? c = some d) : b.digit? c = some d := by
  unfold Base.digit?
  rw [digit]

theorem digit?_plain (c : Char) : b.digit? (plain c) = b.digit? c := by
  refine plain_congr b.digit? (fun c blank => ?_) (fun c d solid digit => ?_) c
  · rw [digit?_of_isBlank blank, digit?_of_isBlank (by decide)]
  · have same := decimalDigit?_plain c
    rw [digit, plain, if_neg (by simp [solid]), digit] at same
    rw [digit?_of_decimalDigit? digit, digit?_of_decimalDigit? same]

/-- A character that is neither a blank nor a digit is the plain form of itself only. -/
theorem plain_eq_iff (solid : isBlank k = false) (none : decimalDigit? k = none) (c : Char) :
    plain c = k ↔ c = k := by
  have same := plain_congr (fun c => decide (c = k)) (fun c blank => ?_) (fun c d _ digit => ?_) c
  · simpa only [decide_eq_decide] using same
  · have other : c ≠ k := fun same => by rw [← same, blank] at solid; cases solid
    have space : ' ' ≠ k := fun same => by rw [← same] at solid; revert solid; decide
    simp only [other, space, decide_false]
  · have other : c ≠ k := fun same => by rw [← same, digit] at none; cases none
    have value : decimalDigit? (Char.ofNat (0x30 + d)) = some d :=
      (by decide : ∀ d : Fin 10, decimalDigit? (Char.ofNat (0x30 + d.val)) = some d.val)
        ⟨d, decimalDigit?_lt c d digit⟩
    have plainly : Char.ofNat (0x30 + d) ≠ k := fun same => by rw [← same, value] at none; cases none
    simp only [other, plainly, decide_false]

/-- The one plain zero. -/
theorem plain_of_zero (zero : decimalDigit? c = some 0) : plain c = '0' := by
  have solid : ¬ isBlank c = true := fun blank => by
    rw [decimalDigit?_of_isBlank blank] at zero
    cases zero
  rw [plain, if_neg solid, zero]

/-! ## Plain numerals -/

theorem run_map_plain : Run b (s.map plain) ds ↔ Run b s ds := by
  have underscore (c : Char) : plain c = '_' ↔ c = '_' := plain_eq_iff (by decide) (by decide) c
  constructor
  · generalize same : s.map plain = t
    intro run
    induction run generalizing s with
    | last digit =>
      obtain ⟨c, rfl, rfl⟩ := List.map_eq_singleton_iff.1 same
      exact .last (digit?_plain c ▸ digit)
    | next digit _ ih =>
      obtain ⟨c, _, rfl, rfl, rest⟩ := List.map_eq_cons_iff.1 same
      exact .next (digit?_plain c ▸ digit) (ih rest)
    | apart digit _ ih =>
      obtain ⟨c, _, rfl, rfl, others⟩ := List.map_eq_cons_iff.1 same
      obtain ⟨e, _, rfl, mark, rest⟩ := List.map_eq_cons_iff.1 others
      obtain rfl := (underscore e).1 mark
      exact .apart (digit?_plain c ▸ digit) (ih rest)
  · intro run
    induction run with
    | @last c d digit => exact .last ((digit?_plain c).trans digit)
    | @next c d s ds digit _ ih => exact .next ((digit?_plain c).trans digit) ih
    | @apart c d s ds digit _ ih =>
      rw [List.map_cons, List.map_cons, (underscore '_').2 rfl]
      exact .apart ((digit?_plain c).trans digit) ih

theorem sign_map_plain : Sign (s.map plain) negative ↔ Sign s negative := by
  have plus (c : Char) : plain c = '+' ↔ c = '+' := plain_eq_iff (by decide) (by decide) c
  have minus (c : Char) : plain c = '-' ↔ c = '-' := plain_eq_iff (by decide) (by decide) c
  constructor
  · generalize same : s.map plain = t
    intro sign
    cases sign with
    | absent =>
      obtain rfl := List.map_eq_nil_iff.1 same
      exact .absent
    | plus =>
      obtain ⟨c, rfl, given⟩ := List.map_eq_singleton_iff.1 same
      obtain rfl := (plus c).1 given
      exact .plus
    | minus =>
      obtain ⟨c, rfl, given⟩ := List.map_eq_singleton_iff.1 same
      obtain rfl := (minus c).1 given
      exact .minus
  · intro sign
    cases sign with
    | absent => exact .absent
    | plus =>
      rw [List.map_singleton, (plus '+').2 rfl]
      exact .plus
    | minus =>
      rw [List.map_singleton, (minus '-').2 rfl]
      exact .minus

theorem mark_map_plain : Mark b (s.map plain) ↔ Mark b s := by
  have underscore (c : Char) : plain c = '_' ↔ c = '_' := plain_eq_iff (by decide) (by decide) c
  have letter (x : Char) : (plain x = 'x' ∨ plain x = 'X') ↔ (x = 'x' ∨ x = 'X') := by
    rw [plain_eq_iff (by decide) (by decide), plain_eq_iff (by decide) (by decide)]
  constructor
  · generalize same : s.map plain = t
    intro mark
    cases mark with
    | absent =>
      obtain rfl := List.map_eq_nil_iff.1 same
      exact .absent b
    | given zero x =>
      obtain ⟨z, _, rfl, rfl, others⟩ := List.map_eq_cons_iff.1 same
      obtain ⟨x', rfl, rfl⟩ := List.map_eq_singleton_iff.1 others
      exact .given (decimalDigit?_plain z ▸ zero) ((letter x').1 x)
    | followed zero x =>
      obtain ⟨z, _, rfl, rfl, others⟩ := List.map_eq_cons_iff.1 same
      obtain ⟨x', _, rfl, rfl, last⟩ := List.map_eq_cons_iff.1 others
      obtain ⟨e, rfl, given⟩ := List.map_eq_singleton_iff.1 last
      obtain rfl := (underscore e).1 given
      exact .followed (decimalDigit?_plain z ▸ zero) ((letter x').1 x)
  · intro mark
    cases mark with
    | absent => exact .absent b
    | given zero x => exact .given ((decimalDigit?_plain _).trans zero) ((letter _).2 x)
    | followed zero x =>
      rw [List.map_cons, List.map_cons, List.map_singleton, (underscore '_').2 rfl]
      exact .followed ((decimalDigit?_plain _).trans zero) ((letter _).2 x)

/-- A text is a numeral if its plain form is one. -/
theorem spelled_map_plain : Spelled b (s.map plain) negative ds ↔ Spelled b s negative ds := by
  have blanks (l : List Char) : (∀ c ∈ l.map plain, isBlank c = true) ↔ ∀ c ∈ l, isBlank c = true := by
    simp only [List.forall_mem_map, isBlank_plain]
  constructor
  · generalize same : s.map plain = t
    intro spelled
    obtain ⟨blank, signed, marked, digits, blank'⟩ := spelled
    obtain ⟨before, _, rfl, rfl, body⟩ := List.map_eq_append_iff.1 same
    obtain ⟨sign, _, rfl, rfl, number⟩ := List.map_eq_append_iff.1 body
    obtain ⟨mark, _, rfl, rfl, rest⟩ := List.map_eq_append_iff.1 number
    obtain ⟨run, after, rfl, rfl, rfl⟩ := List.map_eq_append_iff.1 rest
    exact .intro ((blanks before).1 blank) (sign_map_plain.1 signed) (mark_map_plain.1 marked)
      (run_map_plain.1 digits) ((blanks after).1 blank')
  · intro spelled
    obtain ⟨blank, signed, marked, digits, blank'⟩ := spelled
    simp only [List.map_append]
    exact .intro ((blanks _).2 blank) (sign_map_plain.2 signed) (mark_map_plain.2 marked)
      (run_map_plain.2 digits) ((blanks _).2 blank')

/-! ## Runs -/

/-- The characters that stand for something else in a numeral are no digits. -/
theorem ne_of_digit? (digit : b.digit? c = some d) (symbol : k ∈ ['_', '-', '+', 'x', 'X']) :
    c ≠ k := by
  have none : b.digit? k = none := by
    simp only [List.mem_cons, List.not_mem_nil, or_false] at symbol
    rcases symbol with rfl | rfl | rfl | rfl | rfl <;> cases b <;> rfl
  rintro rfl
  cases none.symm.trans digit

/-- A run begins with a digit. -/
theorem Run.head (run : Run b s ds) : ∃ c rest d, s = c :: rest ∧ b.digit? c = some d := by
  cases run with
  | last digit => exact ⟨_, _, _, rfl, digit⟩
  | next digit => exact ⟨_, _, _, rfl, digit⟩
  | apart digit => exact ⟨_, _, _, rfl, digit⟩

/-- The digits of a run are read. -/
theorem Run.runDigits? (run : Run b s ds) : runDigits? b s = some ds := by
  induction run with
  | last digit => simp only [Numeral.runDigits?, digit, Option.map_some]
  | @next c d s ds digit rest ih =>
    rw [Numeral.runDigits?]
    · rw [digit, ih]
      rfl
    · rintro rfl
      cases ih
    · rintro r rfl
      obtain ⟨_, _, _, same, first⟩ := rest.head
      exact ne_of_digit? first (by decide) (List.cons.inj same).1.symm
  | apart digit rest ih =>
    rw [Numeral.runDigits?, digit, ih]
    rfl

/-- What is read as a run is one. -/
theorem run_of_runDigits? (read : runDigits? b s = some ds) : Run b s ds := by
  fun_induction runDigits? b s generalizing ds with
  | case1 => cases read
  | case2 c =>
    obtain ⟨d, digit, rfl⟩ := Option.map_eq_some_iff.1 read
    exact .last digit
  | case3 c r ih =>
    obtain ⟨d, digit, read⟩ := Option.bind_eq_some_iff.1 read
    obtain ⟨ds, rest, same⟩ := Option.bind_eq_some_iff.1 read
    obtain rfl := Option.some.inj same
    exact .apart digit (ih rest)
  | case4 c r _ _ ih =>
    obtain ⟨d, digit, read⟩ := Option.bind_eq_some_iff.1 read
    obtain ⟨ds, rest, same⟩ := Option.bind_eq_some_iff.1 read
    obtain rfl := Option.some.inj same
    exact .next digit (ih rest)

theorem Run.digit_or_underscore (run : Run b s ds) (member : c ∈ s) :
    c = '_' ∨ ∃ d, b.digit? c = some d := by
  induction run with
  | last digit =>
    obtain rfl := List.mem_singleton.1 member
    exact .inr ⟨_, digit⟩
  | next digit _ ih =>
    rcases List.mem_cons.1 member with rfl | member
    · exact .inr ⟨_, digit⟩
    · exact ih member
  | apart digit _ ih =>
    rcases List.mem_cons.1 member with rfl | member
    · exact .inr ⟨_, digit⟩
    · rcases List.mem_cons.1 member with rfl | member
      · exact .inl rfl
      · exact ih member

/-- The letter of a base mark stands in no run, and in no blanks. -/
theorem Run.no_mark (run : Run b s ds) (blank : ∀ c ∈ after, isBlank c = true) :
    ∀ c ∈ s ++ after, c ≠ 'x' ∧ c ≠ 'X' := by
  intro c member
  rcases List.mem_append.1 member with inside | behind
  · rcases run.digit_or_underscore inside with rfl | ⟨_, digit⟩
    · decide
    · exact ⟨ne_of_digit? digit (by decide), ne_of_digit? digit (by decide)⟩
  · constructor <;> rintro rfl <;> exact absurd (blank _ behind) (by decide)

theorem Run.length_le (run : Run b s ds) : ds.length ≤ s.length := by
  induction run with
  | last => exact Nat.le_refl 1
  | next _ _ ih => exact Nat.succ_le_succ ih
  | apart _ _ ih => exact Nat.succ_le_succ (Nat.le_succ_of_le ih)

theorem Run.digits_lt (run : Run b s ds) : ∀ d ∈ ds, d < b.value := by
  have small {c : Char} {d : Nat} (digit : b.digit? c = some d) : d < b.value := digit?_lt digit
  induction run with
  | last digit => exact List.forall_mem_singleton.2 (small digit)
  | next digit _ ih => exact List.forall_mem_cons.2 ⟨small digit, ih⟩
  | apart digit _ ih => exact List.forall_mem_cons.2 ⟨small digit, ih⟩

/-! ## The steps of the reader -/

/-- The value of the digits is that of the positional system, in which the last digit counts once. -/
theorem valueOf_eq_ofDigits (b : Base) (ds : List Nat) :
    valueOf b ds = Nat.ofDigits b.value ds.reverse := by
  rw [Nat.ofDigits_eq_foldr, List.foldr_reverse, valueOf]
  simp only [Nat.cast_id, Nat.add_comm, Nat.mul_comm]

theorem takeSign_of_ne {c : Char} (r : List Char) (no_minus : c ≠ '-') (no_plus : c ≠ '+') :
    takeSign (c :: r) = (false, c :: r) := by
  unfold takeSign
  split
  · rename_i same
    exact absurd (List.cons.inj same).1 no_minus
  · rename_i same
    exact absurd (List.cons.inj same).1 no_plus
  · rfl

theorem dropMark_of_ne {b : Base} {l : List Char} (no_mark : ∀ c ∈ l, c ≠ 'x' ∧ c ≠ 'X') :
    dropMark b l = l := by
  unfold dropMark
  split
  · exact absurd rfl (no_mark 'x' (by simp)).1
  · exact absurd rfl (no_mark 'X' (by simp)).2
  · exact absurd rfl (no_mark 'x' (by simp)).1
  · exact absurd rfl (no_mark 'X' (by simp)).2
  · rfl

/-- Taking the sign is taking the grammar's sign. -/
theorem sign_takeSign (body : List Char) :
    ∃ sign, body = sign ++ (takeSign body).2 ∧ Sign sign (takeSign body).1 := by
  unfold takeSign
  split
  · exact ⟨['-'], rfl, .minus⟩
  · exact ⟨['+'], rfl, .plus⟩
  · exact ⟨[], rfl, .absent⟩

theorem Sign.takeSign {sign : List Char} (signed : Sign sign negative)
    (unsigned : ∀ c r, body = c :: r → c ≠ '-' ∧ c ≠ '+') :
    takeSign (sign ++ body) = (negative, body) := by
  cases signed with
  | absent =>
    cases body with
    | nil => rfl
    | cons c r => exact takeSign_of_ne r (unsigned c r rfl).1 (unsigned c r rfl).2
  | plus => rfl
  | minus => rfl

/-- Dropping the base mark is dropping the grammar's base mark. -/
theorem mark_dropMark (b : Base) (body : List Char) :
    ∃ mark, body = mark ++ dropMark b body ∧ Mark b mark := by
  unfold dropMark
  split
  · exact ⟨['0', 'x', '_'], rfl, .followed (by decide) (.inl rfl)⟩
  · exact ⟨['0', 'X', '_'], rfl, .followed (by decide) (.inr rfl)⟩
  · exact ⟨['0', 'x'], rfl, .given (by decide) (.inl rfl)⟩
  · exact ⟨['0', 'X'], rfl, .given (by decide) (.inr rfl)⟩
  · exact ⟨[], rfl, .absent b⟩

/-- The base mark of a plain text is dropped; nothing else is. -/
theorem Mark.dropMark {mark : List Char} (marked : Mark b mark)
    (zeros : ∀ z ∈ mark, decimalDigit? z = some 0 → z = '0') (no_mark : ∀ c ∈ body, c ≠ 'x' ∧ c ≠ 'X')
    (digit : ∀ c r, body = c :: r → c ≠ '_') : dropMark b (mark ++ body) = body := by
  cases marked with
  | absent => exact dropMark_of_ne no_mark
  | given zero letter =>
    obtain rfl := zeros _ (by simp) zero
    cases body with
    | nil => rcases letter with rfl | rfl <;> rfl
    | cons c r =>
      have apart := digit c r rfl
      rcases letter with rfl | rfl <;> simp [Numeral.dropMark, apart]
  | followed zero letter =>
    obtain rfl := zeros _ (by simp) zero
    rcases letter with rfl | rfl <;> rfl

/-- A run is taken as a whole if a blank follows. -/
theorem Run.span (run : Run b s ds) (blank : ∀ c ∈ after, isBlank c = true) :
    span b (s ++ after) = (s, after) := by
  have inside : ∀ c ∈ s, (c == '_' || (b.digit? c).isSome) = true := by
    intro c member
    rcases run.digit_or_underscore member with rfl | ⟨d, digit⟩
    · simp
    · simp [digit]
  have outside : ∀ c ∈ after, ¬ (c == '_' || (b.digit? c).isSome) = true := by
    intro c member
    have digit := digit?_of_isBlank (b := b) (blank c member)
    have mark : c ≠ '_' := by
      rintro rfl
      exact absurd (blank _ member) (by decide)
    simp [digit, mark]
  have first (p : Char → Bool) (none : ∀ c ∈ after, ¬ p c = true) (inside : 0 < after.length) :
      ¬ p after[0] = true := none _ (List.getElem_mem inside)
  unfold Numeral.span
  refine Prod.ext ?_ ?_
  · exact (List.takeWhile_append_of_pos inside).trans
      (by rw [List.takeWhile_eq_nil_iff.2 (first _ outside), List.append_nil])
  · exact (List.dropWhile_append_of_pos inside).trans (List.dropWhile_eq_self_iff.2 (first _ outside))

/-! ## Reading -/

theorem limit_passed {count : Nat} :
    b.digitLimit?.filter (· < count) = none ↔ ∀ limit ∈ b.digitLimit?, count ≤ limit := by
  simp only [Option.filter_eq_none_iff, decide_eq_true_eq, Nat.not_lt, Option.mem_def]

/-- The digits of a numeral begin with a digit, also if a base mark stands before them. -/
theorem Mark.begins {mark : List Char} (marked : Mark b mark) (run : Run b s ds) (after : List Char) :
    ∃ c rest d, mark ++ (s ++ after) = c :: rest ∧ b.digit? c = some d := by
  cases marked with
  | absent =>
    obtain ⟨c, rest, d, rfl, digit⟩ := run.head
    exact ⟨c, _, d, rfl, digit⟩
  | given zero => exact ⟨_, _, 0, rfl, digit?_of_decimalDigit? zero⟩
  | followed zero => exact ⟨_, _, 0, rfl, digit?_of_decimalDigit? zero⟩

/-- The reader takes a plain numeral apart as the grammar puts it together. -/
theorem Spelled.parts (spelled : Spelled b s negative ds)
    (zeros : ∀ z ∈ s, decimalDigit? z = some 0 → z = '0') :
    ∃ body run after, takeSign (s.dropWhile isBlank) = (negative, body) ∧
      span b (dropMark b body) = (run, after) ∧ runDigits? b run = some ds ∧
      after.all isBlank = true := by
  obtain @⟨before, sign, mark, run, after, _, _, blank, signed, marked, digits, blank'⟩ := spelled
  obtain ⟨c, rest, d, begins, digit⟩ := marked.begins digits after
  have visible : ¬ isBlank c = true := fun blank => by cases (digit?_of_isBlank blank).symm.trans digit
  have body : (before ++ (sign ++ (mark ++ (run ++ after)))).dropWhile isBlank =
      sign ++ (mark ++ (run ++ after)) := by
    rw [List.dropWhile_append_of_pos blank]
    cases signed with
    | absent => rw [List.nil_append, begins, List.dropWhile_cons_of_neg visible]
    | plus => exact List.dropWhile_cons_of_neg (by decide)
    | minus => exact List.dropWhile_cons_of_neg (by decide)
  have unsigned : ∀ e r, mark ++ (run ++ after) = e :: r → e ≠ '-' ∧ e ≠ '+' := by
    intro e r same
    obtain rfl := (List.cons.inj (begins.symm.trans same)).1
    exact ⟨ne_of_digit? digit (by decide), ne_of_digit? digit (by decide)⟩
  have first : ∀ e r, run ++ after = e :: r → e ≠ '_' := by
    intro e r same
    obtain ⟨e, _, _, rfl, digit⟩ := digits.head
    obtain rfl := (List.cons.inj same).1
    exact ne_of_digit? digit (by decide)
  refine ⟨mark ++ (run ++ after), run, after, ?_, ?_, digits.runDigits?, List.all_eq_true.2 blank'⟩
  · rw [body, signed.takeSign unsigned]
  · rw [marked.dropMark (fun z member => zeros z (by simp [member])) (digits.no_mark blank') first,
      digits.span blank']

/-- What the reader takes apart is a numeral. -/
theorem spelled_of_parts (signed : takeSign (s.dropWhile isBlank) = (negative, body))
    (spanned : span b (dropMark b body) = (run, after)) (digits : runDigits? b run = some ds)
    (blank : after.all isBlank = true) : Spelled b s negative ds := by
  obtain ⟨sign, split, isSign⟩ := sign_takeSign (s.dropWhile isBlank)
  obtain ⟨mark, split', isMark⟩ := mark_dropMark b body
  have whole : run ++ after = dropMark b body := by
    obtain ⟨rfl, rfl⟩ := Prod.mk.inj spanned
    exact List.takeWhile_append_dropWhile
  rw [signed] at split isSign
  rw [← List.takeWhile_append_dropWhile (p := isBlank) (l := s), split, split', ← whole]
  exact .intro (fun c member => List.mem_takeWhile_imp member) isSign isMark
    (run_of_runDigits? digits) (List.all_eq_true.1 blank)

/-- **Numerals.**  A text is read as a number if it is a numeral of no more digits than the base
allows, and the number is the value of the digits with the sign. -/
theorem read_eq_ok_iff :
    read b s = .ok n ↔ ∃ negative ds, Spelled b s negative ds ∧
      (∀ limit ∈ b.digitLimit?, ds.length ≤ limit) ∧
      n = signed negative (Nat.ofDigits b.value ds.reverse) := by
  unfold read
  constructor
  · intro read
    split at read
    rename_i negative body sign
    split at read
    rename_i run after spanned
    split at read
    · cases read
    · rename_i ds digits
      split at read
      · cases read
      · rename_i passed
        split at read
        · rename_i blank
          obtain rfl := Except.ok.inj read
          rw [valueOf_eq_ofDigits]
          exact ⟨negative, ds, spelled_map_plain.1 (spelled_of_parts sign spanned digits blank),
            limit_passed.1 passed, rfl⟩
        · cases read
  · rintro ⟨negative, ds, spelled, limit, rfl⟩
    have zeros : ∀ z ∈ s.map plain, decimalDigit? z = some 0 → z = '0' := by
      intro z member zero
      obtain ⟨c, -, rfl⟩ := List.mem_map.1 member
      exact plain_of_zero ((decimalDigit?_plain c).symm.trans zero)
    obtain ⟨body, run, after, sign, spanned, digits, blank⟩ :=
      (spelled_map_plain.2 spelled).parts zeros
    simp only [sign, spanned, digits, limit_passed.2 limit, blank, if_true, valueOf_eq_ofDigits]
    rfl

/-- The value of so many digits has room in so many places. -/
theorem Run.value_lt (run : Run b s ds) : Nat.ofDigits b.value ds.reverse < b.value ^ s.length := by
  have base : 1 < b.value := by cases b <;> decide
  have small : Nat.ofDigits b.value ds.reverse < b.value ^ ds.reverse.length :=
    Nat.ofDigits_lt_base_pow_length base fun d member =>
      run.digits_lt d (List.mem_reverse.1 member)
  rw [List.length_reverse] at small
  exact Nat.lt_of_lt_of_le small (Nat.pow_le_pow_right (Nat.lt_of_lt_of_le Nat.zero_lt_one base.le) run.length_le)

end ChainLog.Text.Numeral
