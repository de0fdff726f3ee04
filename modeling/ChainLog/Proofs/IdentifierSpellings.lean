/-
# Spellings of identifiers

What is taken off a spelling is said without the steps of the reader: a pattern wherever it occurs
(`Without`), the braces at both ends (`Unbraced`), and hyphens.  What is left decides
(`spellings_exact`): 32 characters that are a numeral in base 16 with no sign but a plus spell the
identifier of that number, and any other text is refused.  So whatever letters of the digits are
capitals, wherever hyphens stand among them, with braces and labels or without (`Spells`), a text is
read as the identifier that it spells.

The zero of a base mark may be one of any script (`foreign_zero_begins_mark`).
-/
import ChainLog.Draft
import ChainLog.Proofs.CanonicalText
import ChainLog.Proofs.NumeralGrammar

namespace ChainLog.Uuid

set_option autoImplicit false

open Text

variable {u v : Uuid} {s t rest pattern body : List Char} {c : Char} {ds : List Nat} {e : ReadError}

/-! ## What is left of a text -/

/-- The rest is the text without a pattern, which is taken off wherever it occurs, from left to
right. -/
inductive Without (pattern : List Char) : List Char → List Char → Prop
  | done : Without pattern [] []
  | removed {s rest : List Char} (others : Without pattern s rest) :
      Without pattern (pattern ++ s) rest
  | kept {c : Char} {s rest : List Char} (elsewhere : ¬ pattern <+: c :: s)
      (others : Without pattern s rest) : Without pattern (c :: s) (c :: rest)

/-- The rest is the text without the braces at both ends. -/
structure Unbraced (s rest : List Char) : Prop where
  split : ∃ front back, s = front ++ (rest ++ back) ∧ (∀ c ∈ front, isBrace c = true) ∧
    ∀ c ∈ back, isBrace c = true
  first : ∀ c ∈ rest.head?, isBrace c = false
  last : ∀ c ∈ rest.getLast?, isBrace c = false

/-- What is left of a text: every `urn:` is taken off, then every `uuid:`, then the braces at both
ends and every hyphen. -/
def Leaves (s rest : List Char) : Prop :=
  ∃ a b m, Without "urn:".toList s a ∧ Without "uuid:".toList a b ∧ Unbraced b m ∧
    rest = m.filter (· != '-')

theorem removeFrom_eq_drop (pattern : List Char) (skip : Nat) (s : List Char) :
    removeFrom pattern skip s = removeAll pattern (s.drop skip) := by
  induction skip generalizing s with
  | zero => rfl
  | succ skip ih =>
    cases s with
    | nil => rfl
    | cons c s => exact ih s

/-- An occurrence in front is removed. -/
theorem removeAll_append (nonempty : pattern ≠ []) (s : List Char) :
    removeAll pattern (pattern ++ s) = removeAll pattern s := by
  obtain ⟨c, rest, rfl⟩ := List.exists_cons_of_ne_nil nonempty
  have occurs : (c :: rest).isPrefixOf (c :: (rest ++ s)) = true :=
    List.isPrefixOf_iff_prefix.2 (List.prefix_append (c :: rest) s)
  rw [removeAll, List.cons_append, removeFrom, if_pos occurs, removeFrom_eq_drop, List.length_cons,
    Nat.add_sub_cancel, List.drop_left]

/-- A text without one of a pattern's characters does not have the pattern in it. -/
theorem removeAll_of_not_mem {c : Char} (within : c ∈ pattern) (missing : c ∉ s) :
    removeAll pattern s = s := by
  unfold removeAll
  induction s with
  | nil => rfl
  | cons d s ih =>
    have apart : ¬ pattern.isPrefixOf (d :: s) := fun occurs =>
      missing ((List.isPrefixOf_iff_prefix.1 occurs).subset within)
    rw [removeFrom, if_neg apart, ih fun member => missing (List.mem_cons_of_mem d member)]

theorem removeAll_cons (elsewhere : ¬ pattern <+: c :: s) :
    removeAll pattern (c :: s) = c :: removeAll pattern s := by
  have missing : ¬ pattern.isPrefixOf (c :: s) = true :=
    fun occurs => elsewhere (List.isPrefixOf_iff_prefix.1 occurs)
  rw [removeAll, removeFrom, if_neg missing, removeAll]

theorem without_removeAll (nonempty : pattern ≠ []) (s : List Char) :
    Without pattern s (removeAll pattern s) := by
  -- The induction is on the length: an occurrence takes off more than one character.
  induction length : s.length using Nat.strong_induction_on generalizing s with
  | _ n ih =>
    cases s with
    | nil => exact .done
    | cons c s =>
      by_cases occurs : pattern <+: c :: s
      · obtain ⟨behind, same⟩ := occurs
        rw [← same, removeAll_append nonempty]
        refine .removed (ih behind.length ?_ behind rfl)
        have := congrArg List.length same
        have := List.length_pos_iff.2 nonempty
        simp only [List.length_append, List.length_cons] at *
        omega
      · rw [removeAll_cons occurs]
        exact .kept occurs (ih s.length (by rw [← length]; exact Nat.lt_succ_self _) s rfl)

theorem removeAll_eq_iff (nonempty : pattern ≠ []) :
    removeAll pattern s = rest ↔ Without pattern s rest := by
  constructor
  · rintro rfl
    exact without_removeAll nonempty s
  · intro without
    induction without with
    | done => rfl
    | removed _ ih => rw [removeAll_append nonempty, ih]
    | kept elsewhere _ ih => rw [removeAll_cons elsewhere, ih]

theorem unbraced_stripBraces (s : List Char) : Unbraced s (stripBraces s) := by
  have split : s.dropWhile isBrace =
      stripBraces s ++ ((s.dropWhile isBrace).reverse.takeWhile isBrace).reverse := by
    rw [stripBraces, ← List.reverse_append, List.takeWhile_append_dropWhile, List.reverse_reverse]
  refine ⟨⟨s.takeWhile isBrace, ((s.dropWhile isBrace).reverse.takeWhile isBrace).reverse, ?_, ?_, ?_⟩,
    ?_, ?_⟩
  · rw [← split, List.takeWhile_append_dropWhile]
  · exact fun c member => List.mem_takeWhile_imp member
  · exact fun c member => List.mem_takeWhile_imp (List.mem_reverse.1 member)
  · intro c first
    have not_brace := List.head?_dropWhile_not isBrace s
    rw [split, List.head?_append, Option.mem_def.1 first] at not_brace
    exact not_brace
  · intro c last
    have not_brace := List.head?_dropWhile_not isBrace (s.dropWhile isBrace).reverse
    rw [stripBraces, List.getLast?_reverse] at last
    rw [Option.mem_def.1 last] at not_brace
    exact not_brace

/-- Nothing but the braces in front is dropped. -/
theorem dropBraces_append {front l : List Char} (braces : ∀ c ∈ front, isBrace c = true)
    (first : ∀ c ∈ l.head?, isBrace c = false) : (front ++ l).dropWhile isBrace = l := by
  rw [List.dropWhile_append_of_pos braces]
  cases l with
  | nil => rfl
  | cons c l => exact List.dropWhile_cons_of_neg (by simp [first c rfl])

theorem stripBraces_eq_iff : stripBraces s = rest ↔ Unbraced s rest := by
  constructor
  · rintro rfl
    exact unbraced_stripBraces s
  · rintro ⟨⟨front, back, rfl, leading, trailing⟩, first, last⟩
    cases rest with
    | nil =>
      have all : ∀ c ∈ front ++ ([] ++ back), isBrace c = true :=
        fun c member => (List.mem_append.1 member).elim (leading c) (trailing c)
      rw [stripBraces, List.dropWhile_eq_nil_iff.2 all]
      rfl
    | cons k rest =>
      have behind : ∀ c ∈ back.reverse, isBrace c = true :=
        fun c member => trailing c (List.mem_reverse.1 member)
      have begins : ∀ c ∈ (k :: rest ++ back).head?, isBrace c = false := first
      rw [← List.head?_reverse] at last
      rw [stripBraces, dropBraces_append leading begins, List.reverse_append,
        dropBraces_append behind last, List.reverse_reverse]

theorem core_eq_iff : core s = rest ↔ Leaves s rest := by
  unfold core Leaves
  simp only [← removeAll_eq_iff (show "urn:".toList ≠ [] by decide),
    ← removeAll_eq_iff (show "uuid:".toList ≠ [] by decide), ← stripBraces_eq_iff]
  constructor
  · rintro rfl
    exact ⟨_, _, _, rfl, rfl, rfl, rfl⟩
  · rintro ⟨_, _, _, rfl, rfl, rfl, rfl⟩
    rfl

/-! ## What a text is read as -/

/-- A text without hyphens has no minus. -/
theorem spelled_unsigned {negative : Bool} (spelled : Numeral.Spelled .sixteen (core s) negative ds) :
    negative = false := by
  have no_hyphen : '-' ∉ core s := by simp [core]
  generalize core s = l at spelled no_hyphen
  obtain ⟨-, signed, -, -, -⟩ := spelled
  cases signed with
  | absent | plus => rfl
  | minus => simp at no_hyphen

/-- The number that is spelled with so many characters is that of an identifier. -/
theorem value_lt (spelled : Numeral.Spelled .sixteen s false ds) (length : s.length = 32) :
    Nat.ofDigits 16 ds.reverse < 0x100000000000000000000000000000000 := by
  obtain @⟨before, sign, mark, run, after, _, _, -, -, -, run_digits, -⟩ := spelled
  have room : run.length ≤ 32 := by
    simp only [List.length_append] at length
    omega
  exact Nat.lt_of_lt_of_le run_digits.value_lt (Nat.pow_le_pow_right (by decide) room)

theorem readChars_eq_ok_iff :
    readChars s = .ok u ↔ (core s).length = 32 ∧
      ∃ ds, Numeral.Spelled .sixteen (core s) false ds ∧ u.toNat = Nat.ofDigits 16 ds.reverse := by
  unfold readChars
  constructor
  · intro read
    split at read
    · rename_i length
      split at read
      · rename_i n number
        obtain ⟨negative, ds, spelled, -, value⟩ := Numeral.read_eq_ok_iff.1 number
        obtain rfl := spelled_unsigned spelled
        split at read
        · obtain rfl := Except.ok.inj read
          exact ⟨length, ds, spelled, Int.ofNat.inj value⟩
        · cases read
      · cases read
    · cases read
  · rintro ⟨length, ds, spelled, value⟩
    have number : Numeral.read .sixteen (core s) = .ok (.ofNat u.toNat) :=
      Numeral.read_eq_ok_iff.2 ⟨false, ds, spelled, fun _ limit => (by cases limit), by rw [value]; rfl⟩
    rw [if_pos length, number]
    exact dif_pos u.isLt

/-- What can come of reading 32 characters. -/
theorem readChars_cases (length : (core s).length = 32) :
    (∃ u, readChars s = .ok u) ∨ readChars s = .error (.notHexadecimal (String.ofList (core s))) := by
  unfold readChars
  rw [if_pos length]
  split
  · split
    · exact .inl ⟨_, rfl⟩
    · exact .inr rfl
  · exact .inr rfl

/-- Why a text is refused. -/
theorem readChars_eq_error_iff :
    readChars s = .error e ↔ ((core s).length ≠ 32 ∧ e = .badlyFormed) ∨
      ((core s).length = 32 ∧ (∀ ds, ¬ Numeral.Spelled .sixteen (core s) false ds) ∧
        e = .notHexadecimal (String.ofList (core s))) := by
  by_cases length : (core s).length = 32
  · simp only [length, ne_eq, not_true_eq_false, false_and, true_and, false_or]
    rcases readChars_cases length with ⟨u, read⟩ | refused
    · obtain ⟨-, ds, spelled, -⟩ := readChars_eq_ok_iff.1 read
      simp only [read, reduceCtorEq, false_iff, not_and]
      intro none
      exact absurd spelled (none ds)
    · have unspelled : ∀ ds, ¬ Numeral.Spelled .sixteen (core s) false ds := by
        intro ds spelled
        have read : readChars s = .ok ⟨_, value_lt spelled length⟩ :=
          readChars_eq_ok_iff.2 ⟨length, ds, spelled, rfl⟩
        cases read.symm.trans refused
      simp only [refused, Except.error.injEq, unspelled, not_false_eq_true, implies_true, true_and]
      exact eq_comm
  · have refused : readChars s = .error .badlyFormed := if_neg length
    simp only [refused, length, Except.error.injEq, ne_eq, not_false_eq_true, true_and, false_and,
      or_false]
    exact eq_comm

/-! ## Spellings -/

/-- The text spells the identifier: it is made of its digits, of which letters may be capitals, with
hyphens anywhere among them, perhaps in braces, and perhaps with a label in front. -/
def Spells (s : List Char) (u : Uuid) : Prop :=
  ∃ label ∈ ["", "urn:", "uuid:", "urn:uuid:"], ∃ body : List Char,
    (s = label.toList ++ body ∨ s = label.toList ++ '{' :: (body ++ ['}'])) ∧
      (body.filter (· != '-')).map Char.toLower = Hex.digits 32 u.toNat

/-- A digit of either case has the value of the lower-case one. -/
theorem digit?_of_toLower {d : Nat} (small : d < 16) (same : c.toLower = Hex.digit d) :
    Numeral.Base.sixteen.digit? c = some d := by
  by_cases capital : 65 ≤ c.toNat ∧ c.toNat ≤ 90
  · have capitals : ∀ k : Fin 26, ∀ d : Fin 16, (Char.ofNat (65 + k.val)).toLower = Hex.digit d.val →
        Numeral.Base.sixteen.digit? (Char.ofNat (65 + k.val)) = some d.val := by decide
    have whole : Char.ofNat (65 + (c.toNat - 65)) = c := by
      rw [Nat.add_sub_cancel' capital.1, Char.ofNat_toNat]
    rw [← whole] at same ⊢
    exact capitals ⟨c.toNat - 65, by omega⟩ ⟨d, small⟩ same
  · have lower : c.toLower = c := dif_neg fun range => capital ⟨range.1, range.2⟩
    rw [← lower, same]
    exact Numeral.digit?_digit small

/-- Digits of either case are a run. -/
theorem run_of_toLower (small : ∀ d ∈ ds, d < 16) (nonempty : ds ≠ [])
    (same : s.map Char.toLower = ds.map Hex.digit) : Numeral.Run .sixteen s ds := by
  induction ds generalizing s with
  | nil => exact absurd rfl nonempty
  | cons d ds ih =>
    obtain ⟨c, rest, rfl, lower, others⟩ := List.map_eq_cons_iff.1 same
    have digit := digit?_of_toLower (small d List.mem_cons_self) lower
    cases ds with
    | nil =>
      obtain rfl := List.map_eq_nil_iff.1 others
      exact .last digit
    | cons f ds =>
      exact .next digit (ih (fun g member => small g (List.mem_cons_of_mem d member))
        (List.cons_ne_nil f ds) others)

section

variable (digits : (body.filter (· != '-')).map Char.toLower = Hex.digits 32 u.toNat)

include digits

/-- Between the braces of a spelling stand digits and hyphens. -/
theorem digit_of_spelling (member : c ∈ body) : c = '-' ∨ Hex.IsDigit c.toLower := by
  by_cases hyphen : c = '-'
  · exact .inl hyphen
  · have kept : c ∈ body.filter (· != '-') := List.mem_filter.2 ⟨member, by simpa using hyphen⟩
    have lower := List.mem_map_of_mem (f := Char.toLower) kept
    rw [digits] at lower
    exact .inr (Hex.isDigit_of_mem lower)

theorem not_mem_of_spelling (apart : ∀ d : Fin 16, Hex.digit d ≠ c.toLower) (other : c ≠ '-') :
    c ∉ body := by
  intro member
  rcases digit_of_spelling digits member with hyphen | isDigit
  · exact other hyphen
  · exact isDigit.induction (P := (· ≠ c.toLower)) apart rfl

end

/-- The labels in front are taken off. -/
theorem removeAll_labels {label : String} {inner : List Char}
    (label_of : label ∈ ["", "urn:", "uuid:", "urn:uuid:"]) (no_n : 'n' ∉ inner)
    (no_colon : ':' ∉ inner) :
    removeAll "uuid:".toList (removeAll "urn:".toList (label.toList ++ inner)) = inner := by
  have urn {l : List Char} (no_n : 'n' ∉ l) : removeAll "urn:".toList l = l :=
    removeAll_of_not_mem (c := 'n') (by decide) no_n
  have uuid : removeAll "uuid:".toList inner = inner :=
    removeAll_of_not_mem (c := ':') (by decide) no_colon
  have labelled : removeAll "uuid:".toList ("uuid:".toList ++ inner) = inner := by
    rw [removeAll_append (by decide), uuid]
  have inside : 'n' ∉ "uuid:".toList ++ inner :=
    fun member => (List.mem_append.1 member).elim (by decide) no_n
  simp only [List.mem_cons, List.not_mem_nil, or_false] at label_of
  rcases label_of with rfl | rfl | rfl | rfl
  · exact (congrArg _ (urn no_n)).trans uuid
  · rw [removeAll_append (by decide), urn no_n, uuid]
  · rw [urn inside, labelled]
  · have both : "urn:uuid:".toList = "urn:".toList ++ "uuid:".toList := by decide
    rw [both, List.append_assoc, removeAll_append (by decide), urn inside, labelled]

/-- A text is read as the identifier that it spells. -/
theorem Spells.readChars (spells : Spells s u) : readChars s = .ok u := by
  obtain ⟨label, label_of, body, shape, digits⟩ := spells
  have unbraced : ∀ c ∈ body, isBrace c = false := by
    intro c member
    by_contra brace
    simp only [isBrace, Bool.not_eq_false, Bool.or_eq_true, beq_iff_eq] at brace
    rcases brace with rfl | rfl
    · exact not_mem_of_spelling digits (by decide) (by decide) member
    · exact not_mem_of_spelling digits (by decide) (by decide) member
  obtain ⟨inner, rfl, others, braces⟩ : ∃ inner, s = label.toList ++ inner ∧
      (∀ c ∈ inner, c ∈ body ∨ isBrace c = true) ∧ stripBraces inner = body := by
    have first : ∀ c ∈ body.head?, isBrace c = false :=
      fun c head => unbraced c (List.mem_of_mem_head? head)
    have last : ∀ c ∈ body.getLast?, isBrace c = false :=
      fun c last => unbraced c (List.mem_of_mem_getLast? last)
    rcases shape with rfl | rfl
    · exact ⟨body, rfl, fun c => .inl,
        stripBraces_eq_iff.2 ⟨⟨[], [], by simp, by simp, by simp⟩, first, last⟩⟩
    · refine ⟨_, rfl, fun c member => ?_,
        stripBraces_eq_iff.2 ⟨⟨['{'], ['}'], rfl, List.forall_mem_singleton.2 rfl,
          List.forall_mem_singleton.2 rfl⟩, first, last⟩⟩
      simp only [List.mem_cons, List.mem_append, List.not_mem_nil, or_false] at member
      rcases member with rfl | inside | rfl
      · exact .inr (by decide)
      · exact .inl inside
      · exact .inr (by decide)
  have missing {c : Char} (apart : ∀ d : Fin 16, Hex.digit d ≠ c.toLower) (hyphen : c ≠ '-')
      (brace : ¬ isBrace c = true) : c ∉ inner := fun member =>
    (others c member).elim (not_mem_of_spelling digits apart hyphen) brace
  have left : core (label.toList ++ inner) = body.filter (· != '-') := by
    rw [core, removeAll_labels label_of (missing (by decide) (by decide) (by decide))
      (missing (by decide) (by decide) (by decide)), braces]
  have length : (body.filter (· != '-')).length = 32 := by
    rw [← List.length_map (f := Char.toLower), digits, Hex.length_digits]
  have run : Numeral.Run .sixteen (body.filter (· != '-')) (Hex.places 32 u.toNat) :=
    run_of_toLower (fun d => Hex.lt_of_mem_places) (by simp [Hex.places])
      (digits.trans (Hex.digits_eq_map 32 u.toNat))
  have room : u.toNat >>> (4 * 32) = 0 := by
    rw [Nat.shiftRight_eq_div_pow]
    exact Nat.div_eq_of_lt u.isLt
  refine readChars_eq_ok_iff.2 ⟨left ▸ length, Hex.places 32 u.toNat, ?_, ?_⟩
  · have spelled : Numeral.Spelled .sixteen ([] ++ ([] ++ ([] ++ (body.filter (· != '-') ++ [])))) false
        (Hex.places 32 u.toNat) :=
      .intro (by simp) .absent (.absent _) run (by simp)
    rwa [List.nil_append, List.nil_append, List.nil_append, List.append_nil, ← left] at spelled
  · exact (Numeral.valueOf_places room).symm.trans (Numeral.valueOf_eq_ofDigits .sixteen _)

/-- The canonical text is one of the spellings. -/
theorem spells_chars (u : Uuid) : Spells u.chars u := by
  refine ⟨"", by decide, u.chars, .inl rfl, ?_⟩
  rw [filter_chars]
  refine (List.map_congr_left fun c member => ?_).trans (List.map_id _)
  exact (Hex.isDigit_of_mem member).induction (P := fun c => c.toLower = c) (by decide)

/-- The canonical text is read as the identifier. -/
theorem read_text (u : Uuid) : read u.text = .ok u := by
  rw [read, text, String.toList_ofList]
  exact (spells_chars u).readChars

/-- **Spellings are read exactly.**  Each text that spells an identifier is read as it, the canonical
text among them.  Of all texts those are read of which 32 characters are left that are a numeral in
base 16 without a sign or with a plus, and the number is that of the identifier.  The others are
refused: they are badly formed, or what is left is no numeral. -/
theorem spellings_exact :
    (∀ (s : List Char) (u : Uuid), Spells s u → (Value.text (String.ofList s)).toUuid = .ok u) ∧
    (∀ u : Uuid, (Value.text u.text).toUuid = .ok u ∧ (Value.uuid u).toUuid = .ok u) ∧
    ∀ t : String,
      (∀ u : Uuid, (Value.text t).toUuid = .ok u ↔ ∃ rest, Leaves t.toList rest ∧ rest.length = 32 ∧
        ∃ ds, Numeral.Spelled .sixteen rest false ds ∧ u.toNat = Nat.ofDigits 16 ds.reverse) ∧
      ∀ e : ReadError, (Value.text t).toUuid = .error e ↔ ∃ rest, Leaves t.toList rest ∧
        ((rest.length ≠ 32 ∧ e = .badlyFormed) ∨
          (rest.length = 32 ∧ (∀ ds, ¬ Numeral.Spelled .sixteen rest false ds) ∧
            e = .notHexadecimal (String.ofList rest))) := by
  have by_chars (t : String) : (Value.text t).toUuid = readChars t.toList := rfl
  refine ⟨fun s u spells => ?_, fun u => ⟨?_, rfl⟩, fun t => ⟨fun u => ?_, fun e => ?_⟩⟩
  · rw [by_chars, String.toList_ofList, spells.readChars]
  · exact read_text u
  · simp only [by_chars, readChars_eq_ok_iff, ← core_eq_iff, exists_eq_left']
  · simp only [by_chars, readChars_eq_error_iff, ← core_eq_iff, exists_eq_left']

/-- Capitals and small letters, hyphens in unusual places, braces and both labels. -/
theorem spellings_exact_of_mixed :
    let s := "urn:uuid:\x7b0aBc-DeF0-123456789-ABCDEF012345678\x7d".toList
    let u := Uuid.ofNat 0x0abcdef0123456789abcdef012345678
    Spells s u ∧ (Value.text (String.ofList s)).toUuid = .ok u := by
  intro s u
  have spells : Spells s u :=
    ⟨"urn:uuid:", by decide, "0aBc-DeF0-123456789-ABCDEF012345678".toList, .inr (by decide),
      by decide +kernel⟩
  exact ⟨spells, spellings_exact.1 s u spells⟩

/-- A zero of another script begins a base mark, too: what is left of this text has no `0x` and
no `0X` in front of its digits, and is read. -/
theorem foreign_zero_begins_mark :
    let t := "٠x3456789abc4def8123456789abcdef"
    (Value.text t).toUuid = .ok (.ofNat 0x3456789abc4def8123456789abcdef) ∧ Leaves t.toList t.toList ∧
      ¬ ∃ (before sign mark run after : List Char) (ds : List Nat),
        t.toList = before ++ (sign ++ (mark ++ (run ++ after))) ∧ (∀ c ∈ before, isBlank c = true) ∧
          sign ∈ [[], ['+']] ∧ mark ∈ ["", "0x", "0X", "0x_", "0X_"].map String.toList ∧
          Numeral.Run .sixteen run ds ∧ ∀ c ∈ after, isBlank c = true := by
  intro t
  refine ⟨by decide +kernel, core_eq_iff.1 (by decide +kernel), ?_⟩
  rintro ⟨before, sign, mark, run, after, ds, same, blank, signed, marked, digits, blank'⟩
  have letter : 'x' ∈ before ++ (sign ++ (mark ++ (run ++ after))) := by
    rw [← same]
    decide
  have no_zero : '0' ∉ before ++ (sign ++ (mark ++ (run ++ after))) := by
    rw [← same]
    decide
  simp only [List.mem_append, not_or] at letter no_zero
  -- Only a mark has the letter, and each of these marks has a plain zero as well.
  have no_sign : ∀ sign ∈ [[], ['+']], 'x' ∉ sign := by decide
  have zero : ∀ mark ∈ ["", "0x", "0X", "0x_", "0X_"].map String.toList, 'x' ∈ mark → '0' ∈ mark := by
    decide
  rcases letter with inside | inside | inside | inside
  · exact absurd (blank _ inside) (by decide)
  · exact no_sign sign signed inside
  · exact no_zero.2.2.1 (zero mark marked inside)
  · exact (digits.no_mark blank' 'x' (List.mem_append.2 inside)).1 rfl

end ChainLog.Uuid
