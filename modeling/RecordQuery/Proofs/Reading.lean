import RecordQuery.Proofs.Blanks
import RecordQuery.Text.Decimal
import RecordQuery.Text.Reader
import Mathlib.Tactic.IntervalCases

/-!
What readers take. `Takes r s a rest` says that a reader takes a value off a text and leaves a rest; the
readers of a `do` block take theirs one after the other (`Takes.bind`).

A number that is written in digits is taken again, with zeros in front of it or not: by `number`, which
stops after as many digits as it may take (`takes_number`), by `digits`, which goes on to the first other
character (`takes_digits`), and as a whole text with its sign (`readInt?_toString`).
-/

namespace RecordQuery.Text

variable {c d : Char} {width n : Nat} {s rest : List Char}

/-! ## Digits -/

theorem isBlank_of_isDigit (digit : c.isDigit = true) : isBlank c = false := by
  obtain ⟨least, most⟩ := Char.isDigit_iff_toNat.1 digit
  change 48 ≤ c.toNat at least
  change c.toNat ≤ 57 at most
  unfold isBlank CodePointSet.contains
  generalize c.toNat = n at least most
  interval_cases n <;> rfl

theorem isDigit_of_mem_toDigits (mem : c ∈ Nat.toDigits 10 n) : c.isDigit = true :=
  Nat.isDigit_of_mem_toDigits (by decide) (by decide) mem

theorem isDigit_of_mem_padded (mem : c ∈ padded width n) : c.isDigit = true := by
  rcases List.mem_append.1 mem with zero | digit
  · obtain rfl := (List.mem_replicate.1 zero).2
    rfl
  · exact isDigit_of_mem_toDigits digit

theorem ofDigitChars_padded (width n : Nat) : Nat.ofDigitChars 10 (padded width n) 0 = n := by
  rw [padded, List.leftpad, Nat.ofDigitChars_append, Nat.ofDigitChars_replicate_zero, Nat.mul_zero,
    Nat.ofDigitChars_ten_toDigits]

theorem length_padded (pos : 0 < width) (fits : n < 10 ^ width) : (padded width n).length = width := by
  have short := (Nat.length_toDigits_le_iff (by decide) pos).2 fits
  rw [padded, List.length_leftpad, Nat.max_eq_left short]

theorem exists_padded_eq_cons (width n : Nat) :
    ∃ c s, padded width n = c :: s ∧ c.isDigit = true := by
  have notEmpty : padded width n ≠ [] :=
    List.append_ne_nil_of_right_ne_nil _ Nat.toDigits_ne_nil
  obtain ⟨c, s, digits⟩ := List.exists_cons_of_ne_nil notEmpty
  exact ⟨c, s, digits, isDigit_of_mem_padded (digits ▸ List.mem_cons_self)⟩

/-! ## Whole numbers as whole texts -/

theorem trim_of_solid (solid : ∀ c ∈ s, isBlank c = false) : trim s = s := by
  have start (u : List Char) (solid : ∀ c ∈ u, isBlank c = false) : trimStart u = u := by
    rw [trimStart, List.dropWhile_eq_self_iff]
    intro hasFirst
    rw [solid _ (List.getElem_mem hasFirst)]
    exact Bool.false_ne_true
  rw [trim, start s solid, start s.reverse fun c mem => solid c (List.mem_reverse.1 mem),
    List.reverse_reverse]

theorem readNat?_toDigits (n : Nat) : readNat? (Nat.toDigits 10 n) = some n := by
  have allDigits : (Nat.toDigits 10 n).all Char.isDigit = true :=
    List.all_eq_true.2 fun _ mem => isDigit_of_mem_toDigits mem
  have notEmpty : ¬ (Nat.toDigits 10 n).isEmpty = true := by
    rw [List.isEmpty_iff]
    exact Nat.toDigits_ne_nil
  rw [readNat?, if_neg notEmpty, if_pos allDigits, Nat.ofDigitChars_ten_toDigits]

/-- Digits have no sign in front. -/
theorem readInt?_of_digits (allDigits : ∀ c ∈ s, c.isDigit = true) :
    readInt? s = (readNat? s).map Int.ofNat := by
  unfold readInt?
  split
  case h_1 => cases allDigits _ List.mem_cons_self
  case h_2 => cases allDigits _ List.mem_cons_self
  case h_3 => rfl

theorem toList_toString_ofNat (n : Nat) : (toString (n : Int)).toList = Nat.toDigits 10 n := by
  rw [Int.toString_eq_repr, Int.repr_eq_if, if_pos (Int.natCast_nonneg n), Int.toNat_natCast,
    Nat.toList_repr]

theorem toList_toString_negSucc (n : Nat) :
    (toString (Int.negSucc n)).toList = '-' :: Nat.toDigits 10 (n + 1) := by
  rw [Int.toString_eq_repr, Int.repr_eq_if, if_neg (Int.not_le.2 (Int.negSucc_lt_zero n)),
    String.toList_append, Nat.toList_repr]
  rfl

/-- A whole number is read from what it is written as, in which nothing is blank. -/
theorem readInt?_toString (z : Int) :
    readInt? (toString z).toList = some z ∧ ∀ c ∈ (toString z).toList, isBlank c = false := by
  have solid (n : Nat) : ∀ c ∈ Nat.toDigits 10 n, isBlank c = false :=
    fun c mem => isBlank_of_isDigit (isDigit_of_mem_toDigits mem)
  cases z with
  | ofNat n =>
    rw [Int.ofNat_eq_natCast, toList_toString_ofNat,
      readInt?_of_digits fun c mem => isDigit_of_mem_toDigits mem, readNat?_toDigits]
    exact ⟨rfl, solid n⟩
  | negSucc n =>
    rw [toList_toString_negSucc, readInt?, readNat?_toDigits]
    exact ⟨rfl, List.forall_mem_cons.2 ⟨rfl, solid (n + 1)⟩⟩

/-! ## Readers -/

namespace Reader

variable {α β : Type} {r : Reader α} {a : α} {b : β} {t : List Char}

/-- The reader takes the value off the text and leaves the rest. -/
def Takes (r : Reader α) (s : List Char) (a : α) (rest : List Char) : Prop :=
  r.run s = some (a, rest)

theorem Takes.bind {next : α → Reader β} (first : Takes r s a t) (second : Takes (next a) t b rest) :
    Takes (r >>= next) s b rest := by
  unfold Takes at *
  rw [StateT.run_bind, first]
  exact second

/-- The readers behind one that fails do not come to anything. -/
theorem run_bind_of_fails {next : α → Reader β} (fails : r.run s = none) : (r >>= next).run s = none := by
  rw [StateT.run_bind, fails]
  rfl

theorem takes_pure (a : α) (s : List Char) : Takes (pure a) s a s := rfl

theorem Takes.readAll? (takes : Takes r s a []) : readAll? r s = some a := by
  unfold Reader.readAll?
  rw [takes]

theorem takes_satisfying {p : Char → Bool} (holds : p c = true) (rest : List Char) :
    Takes (satisfying p) (c :: rest) c rest := by
  change (if p c then some (c, rest) else none) = some (c, rest)
  rw [if_pos holds]

theorem takes_char (c : Char) (rest : List Char) : Takes (char c) (c :: rest) () rest := by
  have itself : Takes (satisfying (· == c)) (c :: rest) c rest :=
    takes_satisfying (beq_self_eq_true c) rest
  exact itself.bind (takes_pure () rest)

theorem takes_has (c : Char) (rest : List Char) : Takes (has c) (c :: rest) true rest := by
  change (if c = c then some (true, rest) else some (false, c :: rest)) = some (true, rest)
  rw [if_pos rfl]

theorem takes_has_other (other : d ≠ c) (rest : List Char) :
    Takes (has c) (d :: rest) false (d :: rest) := by
  change (if d = c then some (true, rest) else some (false, d :: rest)) = some (false, d :: rest)
  rw [if_neg other]

/-- Nothing is skipped before a character that is not to be skipped. -/
theorem takes_skipWhile {p : Char → Bool} (kept : p c = false) (rest : List Char) :
    Takes (skipWhile p) (c :: rest) () (c :: rest) := by
  change some ((), (c :: rest).dropWhile p) = some ((), c :: rest)
  rw [List.dropWhile_cons_of_neg (Bool.eq_false_iff.1 kept)]

/-- A number does not start with a sign or a dot. -/
theorem takes_has_padded (noDigit : c.isDigit = false) (width n : Nat) (rest : List Char) :
    Takes (has c) (padded width n ++ rest) false (padded width n ++ rest) := by
  obtain ⟨d, s, digits, digit⟩ := exists_padded_eq_cons width n
  have other : d ≠ c := by
    rintro rfl
    exact Bool.false_ne_true (noDigit.symm.trans digit)
  rw [digits]
  exact takes_has_other other (s ++ rest)

theorem takes_blanks_padded (width n : Nat) (rest : List Char) :
    Takes blanks (padded width n ++ rest) () (padded width n ++ rest) := by
  obtain ⟨c, s, digits, digit⟩ := exists_padded_eq_cons width n
  rw [digits]
  exact takes_skipWhile (isBlank_of_isDigit digit) (s ++ rest)

/-- A number with as many digits as may be taken, whatever follows. -/
theorem takes_number {least : Nat} (enough : least ≤ width) (pos : 0 < width) (fits : n < 10 ^ width)
    (rest : List Char) : Takes (number least width) (padded width n ++ rest) n rest := by
  have length : (padded width n).length = width := length_padded pos fits
  have digits : ((padded width n ++ rest).take width).takeWhile Char.isDigit = padded width n := by
    rw [List.take_left' length, List.takeWhile_eq_self_iff]
    exact fun _ mem => isDigit_of_mem_padded mem
  change (if (((padded width n ++ rest).take width).takeWhile Char.isDigit).length < least then none
    else some (_, (padded width n ++ rest).drop _)) = some (n, rest)
  rw [digits, length, if_neg (Nat.not_lt.2 enough), ofDigitChars_padded, List.drop_left' length]

theorem takes_two (fits : n < 10 ^ 2) (rest : List Char) :
    Takes (number 2 2) (padded 2 n ++ rest) n rest :=
  takes_number (Nat.le_refl 2) (by decide) fits rest

/-- All digits of a number, up to another character. -/
theorem takes_digits (ends : d.isDigit = false) (width n : Nat) (rest : List Char) :
    Takes digits (padded width n ++ d :: rest) (padded width n) (d :: rest) := by
  have allDigits : ∀ c ∈ padded width n, c.isDigit = true := fun _ mem => isDigit_of_mem_padded mem
  have taken : (padded width n ++ d :: rest).takeWhile Char.isDigit = padded width n := by
    rw [List.takeWhile_append_of_pos allDigits,
      List.takeWhile_cons_of_neg (Bool.eq_false_iff.1 ends), List.append_nil]
  have left : (padded width n ++ d :: rest).dropWhile Char.isDigit = d :: rest := by
    rw [List.dropWhile_append_of_pos allDigits,
      List.dropWhile_cons_of_neg (Bool.eq_false_iff.1 ends)]
  obtain ⟨c, s, cons, -⟩ := exists_padded_eq_cons width n
  change digits (padded width n ++ d :: rest) = _
  rw [digits, taken, left, cons]

end Reader

end RecordQuery.Text
