import RecordQuery.Proofs.Reading
import RecordQuery.Text.Quoted

/-!
Quoted text. Between the quotes a text can be read again one character at a time, since an escape says where
it ends (`takes_unescape`), so that different texts are different in quotes as well (`quote_injective`).
Everything in a quoted text is printable (`isShown_quote`), and no control character is, nor one that
separates lines or paragraphs (`not_isControlOrBreak`).
-/

namespace RecordQuery.Text

variable {c d : Char} {s t : List Char} {n : Nat}

/-! ## Hexadecimal digits -/

/-- The number that a hexadecimal digit stands for. -/
def hexValue (c : Char) : Nat := "0123456789abcdef".toList.idxOf c

/-- The number that hexadecimal digits stand for. -/
def ofHexDigits (s : List Char) : Nat := s.foldl (fun n c => 16 * n + hexValue c) 0

theorem hexValue_digitChar : ∀ n < 16, hexValue n.digitChar = n := by decide

theorem ofHexDigits_toDigits (n : Nat) : ofHexDigits (Nat.toDigits 16 n) = n := by
  induction n using Nat.base_induction 16 (by decide) with
  | single n small =>
    rw [Nat.toDigits_of_lt_base small]
    change 16 * 0 + hexValue n.digitChar = n
    rw [hexValue_digitChar n small, Nat.zero_add]
  | digit n digit small pos ih =>
    rw [← Nat.toDigits_append_toDigits (by decide) pos small, Nat.toDigits_of_lt_base small]
    unfold ofHexDigits at ih ⊢
    rw [List.foldl_append, ih]
    change 16 * n + hexValue digit.digitChar = 16 * n + digit
    rw [hexValue_digitChar digit small]

theorem exists_digitChar_of_mem_toDigits {base : Nat} (one_lt : 1 < base)
    (mem : c ∈ Nat.toDigits base n) : ∃ digit < base, c = digit.digitChar := by
  induction n using Nat.base_induction base one_lt with
  | single n small =>
    rw [Nat.toDigits_of_lt_base small] at mem
    exact ⟨n, small, List.mem_singleton.1 mem⟩
  | digit n digit small pos ih =>
    rw [← Nat.toDigits_append_toDigits one_lt pos small, Nat.toDigits_of_lt_base small] at mem
    rcases List.mem_append.1 mem with before | last
    · exact ih before
    · exact ⟨digit, small, List.mem_singleton.1 last⟩

/-! ## Escapes -/

/-- The marks behind a backslash that stand for one character each. -/
def marks : List (Char × Char) :=
  [('"', '"'), ('\\', '\\'), ('n', '\n'), ('r', '\r'), ('t', '\t'), ('0', '\x00')]

/-- A character is written with a mark, as it is, or by its code point. -/
theorem escape_cases (c : Char) :
    (∃ mark, (mark, c) ∈ marks ∧ escape c = ['\\', mark]) ∨
      (c ≠ '\\' ∧ isPrintable c = true ∧ escape c = [c]) ∨ escape c = codePointEscape c := by
  by_cases marked : c ∈ marks.map Prod.snd
  case pos =>
    obtain ⟨⟨mark, _⟩, mem, rfl⟩ := List.mem_map.1 marked
    have written : ∀ m ∈ marks, escape m.2 = ['\\', m.1] := by decide +kernel
    exact .inl ⟨mark, mem, written _ mem⟩
  case neg =>
    have plain : escape c = if isPrintable c then [c] else codePointEscape c := by
      unfold escape
      split
      case h_7 => rfl
      all_goals exact absurd (by decide) marked
    cases printable : isPrintable c with
    | true =>
      have notBackslash : c ≠ '\\' := by
        intro backslash
        subst backslash
        exact marked (by decide)
      exact .inr (.inl ⟨notBackslash, rfl, by rw [plain, if_pos printable]⟩)
    | false => exact .inr (.inr (by rw [plain, printable]; rfl))

/-- Takes what there is before the closing brace. -/
def upToBrace : Reader (List Char) := fun s =>
  some (s.takeWhile (· != '\x7d'), s.dropWhile (· != '\x7d'))

/-- Takes the code point of a character, in braces. -/
def codePoint : Reader Char := do
  Reader.char '\x7b'
  let digits ← upToBrace
  Reader.char '\x7d'
  return Char.ofNat (ofHexDigits digits)

/-- Takes what is behind a backslash. -/
def behindBackslash : Reader Char := do
  let mark ← Reader.satisfying fun _ => true
  if mark = 'u' then codePoint else fun s => (marks.lookup mark).map (·, s)

/-- Takes a character as it is written between quotes. -/
def unescape : Reader Char := do
  let c ← Reader.satisfying fun _ => true
  if c = '\\' then behindBackslash else return c

open Reader

theorem takes_upToBrace (braceless : ∀ d ∈ s, (d != '\x7d') = true) (rest : List Char) :
    Takes upToBrace (s ++ '\x7d' :: rest) s ('\x7d' :: rest) := by
  have taken : (s ++ '\x7d' :: rest).takeWhile (· != '\x7d') = s := by
    rw [List.takeWhile_append_of_pos braceless, List.takeWhile_cons_of_neg (by decide),
      List.append_nil]
  have left : (s ++ '\x7d' :: rest).dropWhile (· != '\x7d') = '\x7d' :: rest := by
    rw [List.dropWhile_append_of_pos braceless, List.dropWhile_cons_of_neg (by decide)]
  change some (_, _) = some (s, '\x7d' :: rest)
  rw [taken, left]

theorem takes_codePoint (c : Char) (rest : List Char) :
    Takes codePoint ('\x7b' :: (Nat.toDigits 16 c.toNat ++ '\x7d' :: rest)) c rest := by
  have braceless : ∀ d ∈ Nat.toDigits 16 c.toNat, (d != '\x7d') = true := by
    intro d mem
    obtain ⟨digit, small, rfl⟩ := exists_digitChar_of_mem_toDigits (by decide) mem
    have digits : ∀ digit < 16, (digit.digitChar != '\x7d') = true := by decide
    exact digits digit small
  refine (takes_char _ _).bind ((takes_upToBrace braceless rest).bind ((takes_char _ rest).bind ?_))
  rw [ofHexDigits_toDigits, Char.ofNat_toNat]
  exact takes_pure c rest

/-- An escape is read as the character that it stands for, whatever follows. -/
theorem takes_unescape (c : Char) (rest : List Char) : Takes unescape (escape c ++ rest) c rest := by
  have any (d : Char) (t : List Char) : Takes (satisfying fun _ => true) (d :: t) d t :=
    takes_satisfying rfl t
  rcases escape_cases c with ⟨mark, mem, written⟩ | ⟨notBackslash, -, written⟩ | written
  · have stands : ∀ m ∈ marks, m.1 ≠ 'u' ∧ marks.lookup m.1 = some m.2 := by decide
    obtain ⟨notCodePoint, found⟩ := stands _ mem
    rw [written]
    refine (any '\\' (mark :: rest)).bind ((any mark rest).bind ?_)
    rw [if_neg notCodePoint, found]
    rfl
  · rw [written]
    refine (any c rest).bind ?_
    rw [if_neg notBackslash]
    exact takes_pure c rest
  · rw [written, codePointEscape]
    simp only [List.cons_append, List.append_assoc, List.nil_append]
    exact (any '\\' _).bind ((any 'u' _).bind (takes_codePoint c rest))

/-! ## Quoted text -/

theorem escape_append_inj (same : escape c ++ s = escape d ++ t) : c = d ∧ s = t := by
  have first := takes_unescape c s
  rw [same] at first
  have both : some (c, s) = some (d, t) := first.symm.trans (takes_unescape d t)
  exact Prod.mk.inj (Option.some.inj both)

theorem escape_ne_nil (c : Char) : escape c ≠ [] := by
  intro empty
  have taken := takes_unescape c []
  rw [empty] at taken
  cases taken

theorem flatMap_escape_inj (same : s.flatMap escape = t.flatMap escape) : s = t := by
  induction s generalizing t with
  | nil =>
    cases t with
    | nil => rfl
    | cons d t => exact absurd (List.append_eq_nil_iff.1 same.symm).1 (escape_ne_nil d)
  | cons c s ih =>
    cases t with
    | nil => exact absurd (List.append_eq_nil_iff.1 same).1 (escape_ne_nil c)
    | cons d t =>
      obtain ⟨rfl, rest⟩ := escape_append_inj same
      rw [ih rest]

/-- Different texts are different in quotes. -/
theorem quote_injective : Function.Injective quote := by
  intro s t same
  obtain ⟨-, inner⟩ := List.cons.inj (String.ofList_injective same)
  exact String.toList_inj.1 (flatMap_escape_inj (List.append_cancel_right inner))

/-! ## Printable characters -/

/-- A control character, or one that separates lines or paragraphs. -/
def IsControlOrBreak (c : Char) : Prop :=
  c.toNat < 0x20 ∨ 0x7F ≤ c.toNat ∧ c.toNat < 0xA0 ∨ c = '\u2028' ∨ c = '\u2029'

theorem not_isControlOrBreak (printable : isPrintable c = true) : ¬ IsControlOrBreak c := by
  -- both blocks of controls are decided at once, and the two breaks on their own
  have controls : ∀ n < 0xA0, n < 0x20 ∨ 0x7F ≤ n →
      CodePointSet.containsFrom n false PrintableTable.unprintable.boundaries = true := by
    decide +kernel
  have shown : PrintableTable.unprintable.contains c = false := by
    unfold isPrintable at printable
    simp only [Bool.and_eq_true, Bool.not_eq_true'] at printable
    exact printable.1.1
  have notControl (low : c.toNat < 0xA0) (control : c.toNat < 0x20 ∨ 0x7F ≤ c.toNat) : False := by
    rw [CodePointSet.contains, controls c.toNat low control] at shown
    cases shown
  intro kind
  rcases kind with low | ⟨least, most⟩ | rfl | rfl
  · exact notControl (by omega) (.inl low)
  · exact notControl most (.inr least)
  · exact absurd printable (by decide +kernel)
  · exact absurd printable (by decide +kernel)

/-- The space, or a character of ASCII that is seen. -/
def isVisibleAscii (c : Char) : Bool := 0x20 ≤ c.toNat && c.toNat < 0x7F

theorem isPrintable_of_isVisibleAscii (visible : isVisibleAscii c = true) : isPrintable c = true := by
  have ascii : ∀ n < 0x7F, 0x20 ≤ n → isPrintable (Char.ofNat n) = true := by decide +kernel
  obtain ⟨least, most⟩ : 0x20 ≤ c.toNat ∧ c.toNat < 0x7F := by
    simpa only [isVisibleAscii, Bool.and_eq_true, decide_eq_true_eq] using visible
  have printable := ascii c.toNat most least
  rwa [Char.ofNat_toNat] at printable

theorem isPrintable_of_mem_toDigits {base : Nat} (one_lt : 1 < base) (most : base ≤ 16)
    (mem : c ∈ Nat.toDigits base n) : isPrintable c = true := by
  have digits : ∀ digit < 16, isVisibleAscii digit.digitChar = true := by decide
  obtain ⟨digit, small, rfl⟩ := exists_digitChar_of_mem_toDigits one_lt mem
  exact isPrintable_of_isVisibleAscii (digits digit (small.trans_le most))

theorem isPrintable_of_mem_escape (mem : d ∈ escape c) : isPrintable d = true := by
  rcases escape_cases c with ⟨mark, isMark, written⟩ | ⟨-, printable, written⟩ | written
  · have ascii : ∀ m ∈ marks, ['\\', m.1].all isVisibleAscii = true := by decide
    rw [written] at mem
    exact isPrintable_of_isVisibleAscii (List.all_eq_true.1 (ascii _ isMark) d mem)
  · rw [written, List.mem_singleton] at mem
    rwa [mem]
  · have ascii : (['\\', 'u', '\x7b'] ++ ['\x7d']).all isVisibleAscii = true := by decide
    rw [written] at mem
    change d ∈ ['\\', 'u', '\x7b'] ++ (Nat.toDigits 16 c.toNat ++ ['\x7d']) at mem
    rcases List.mem_append.1 mem with before | rest
    · exact isPrintable_of_isVisibleAscii
        (List.all_eq_true.1 ascii d (List.mem_append_left _ before))
    · rcases List.mem_append.1 rest with digit | after
      · exact isPrintable_of_mem_toDigits (by decide) (by decide) digit
      · exact isPrintable_of_isVisibleAscii
          (List.all_eq_true.1 ascii d (List.mem_append_right _ after))

/-! ## Shown texts -/

/-- Everything in the text is printable. -/
def IsShown (s : String) : Prop := ∀ c ∈ s.toList, isPrintable c = true

section Shown

variable {s t : String}

theorem isShown_of_ascii (ascii : s.toList.all isVisibleAscii = true) : IsShown s :=
  fun c mem => isPrintable_of_isVisibleAscii (List.all_eq_true.1 ascii c mem)

theorem IsShown.append (shownS : IsShown s) (shownT : IsShown t) : IsShown (s ++ t) := by
  intro c mem
  rw [String.toList_append] at mem
  rcases List.mem_append.1 mem with inS | inT
  · exact shownS c inS
  · exact shownT c inT

theorem isShown_toString (z : Int) : IsShown (toString z) := by
  have digits (n : Nat) : ∀ c ∈ Nat.toDigits 10 n, isPrintable c = true :=
    fun _ mem => isPrintable_of_mem_toDigits (by decide) (by decide) mem
  intro c mem
  cases z with
  | ofNat n => exact digits n c (toList_toString_ofNat n ▸ mem)
  | negSucc n =>
    rw [toList_toString_negSucc] at mem
    rcases List.mem_cons.1 mem with rfl | digit
    · exact isPrintable_of_isVisibleAscii (by decide)
    · exact digits (n + 1) c digit

/-- Whatever the text, everything in it is printable once it is in quotes. -/
theorem isShown_quote (s : String) : IsShown (quote s) := by
  have mark : isPrintable '"' = true := isPrintable_of_isVisibleAscii (by decide)
  intro c mem
  rw [quote, String.toList_ofList, List.mem_cons, List.mem_append, List.mem_flatMap,
    List.mem_singleton] at mem
  rcases mem with rfl | ⟨d, -, inEscape⟩ | rfl
  · exact mark
  · exact isPrintable_of_mem_escape inEscape
  · exact mark

end Shown

end RecordQuery.Text
