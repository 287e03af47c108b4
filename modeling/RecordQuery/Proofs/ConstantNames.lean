import Mathlib.Data.List.SplitBy
import RecordQuery.Proofs.DeclaredLayout

/-!
The constants of a declared type. A query name falls into words, at each underscore, hyphen and dot and
before each capital letter behind another character, and its constant joins these words in ASCII capitals
(`splitOn_capitalsFrom`). So two names have one constant exactly if they have the same words, the case of
ASCII letters aside (`constantName_eq_iff`).

That query names are distinct is therefore not enough: the constants of an accepted declaration, with the
one that lists the names, are distinct if no two of its names have the same words and none has those of the
list (`Declaration.nodup_associatedNames_iff`).
-/

namespace RecordQuery

/-! ## Words of a name -/

/-- The characters that stand between words. -/
def isWordMark (c : Char) : Bool := c == '_' || c == '-' || c == '.'

/-- Whether a word that holds `a` goes on with `b`. -/
def wordGoesOn (a b : Char) : Bool := Text.isUppercase a || !Text.isUppercase b

/-- The words of a piece of a name without marks. -/
def humps (piece : List Char) : List (List Char) :=
  if piece.isEmpty then [[]] else piece.splitBy wordGoesOn

/-- The words of a name. -/
def nameWords (name : List Char) : List (List Char) := (name.splitOnP isWordMark).flatMap humps

/-- The words of two names are the same, the case of ASCII letters aside. -/
def SameWords (a b : String) : Prop :=
  (nameWords a.toList).map (List.map Char.toUpper) = (nameWords b.toList).map (List.map Char.toUpper)

instance (a b : String) : Decidable (SameWords a b) :=
  inferInstanceAs (Decidable ((nameWords a.toList).map (List.map Char.toUpper) = _))

/-! ## Capitals -/

section Capitals

variable {c : Char} {s t w : List Char} {afterLower : Bool}

theorem ascii_or_toUpper_eq (c : Char) : (∃ n < 0x80, c = Char.ofNat n) ∨ c.toUpper = c := by
  by_cases below : c.toNat < 0x80
  · exact .inl ⟨c.toNat, below, (Char.ofNat_toNat c).symm⟩
  · refine .inr (dif_neg ?_)
    rintro ⟨-, atMostZ⟩
    exact below (Nat.lt_of_le_of_lt (UInt32.le_iff_toNat_le.1 atMostZ) (by decide))

theorem toUpper_of_isUppercase (upper : Text.isUppercase c = true) : c.toUpper = c := by
  obtain ⟨n, ascii, rfl⟩ | same := ascii_or_toUpper_eq c
  · have all : ∀ n < 0x80, Text.isUppercase (Char.ofNat n) → (Char.ofNat n).toUpper = Char.ofNat n := by
      decide +kernel
    exact all n ascii upper
  · exact same

theorem toUpper_eq_underscore (lifted : c.toUpper = '_') : c = '_' := by
  obtain ⟨n, ascii, rfl⟩ | same := ascii_or_toUpper_eq c
  · have all : ∀ n < 0x80, (Char.ofNat n).toUpper = '_' → Char.ofNat n = '_' := by
      decide +kernel
    exact all n ascii lifted
  · exact same.symm.trans lifted

theorem isWordMark_iff : isWordMark c = true ↔ c = '_' ∨ c = '-' ∨ c = '.' := by
  rw [isWordMark, Bool.or_eq_true, Bool.or_eq_true, beq_iff_eq, beq_iff_eq, beq_iff_eq, or_assoc]

theorem isUppercase_of_isWordMark (mark : isWordMark c = true) : Text.isUppercase c = false := by
  obtain rfl | rfl | rfl := isWordMark_iff.1 mark <;> decide +kernel

/-- What the capitals have for one character of a name: an underscore for a word mark and else the character in
ASCII capitals, behind one more underscore where it raises a new word. -/
theorem capitalsFrom_cons (afterLower : Bool) (c : Char) (s : List Char) :
    capitalsFrom afterLower (c :: s) =
      (if afterLower && Text.isUppercase c then ['_'] else []) ++
        (if isWordMark c then '_' else c.toUpper) ::
          capitalsFrom (!Text.isUppercase c && !isWordMark c) s := by
  simp only [capitalsFrom, ← isWordMark_iff]
  cases mark : isWordMark c with
  | true =>
    rw [isUppercase_of_isWordMark mark, Bool.and_false]
    rfl
  | false =>
    cases upper : Text.isUppercase c with
    | true =>
      rw [toUpper_of_isUppercase upper]
      cases afterLower <;> rfl
    | false =>
      rw [Bool.and_false]
      rfl

theorem capitalsFrom_mark (mark : isWordMark c = true) (s : List Char) :
    capitalsFrom afterLower (c :: s) = '_' :: capitalsFrom false s := by
  rw [capitalsFrom_cons, isUppercase_of_isWordMark mark, mark, Bool.and_false]
  rfl

theorem capitalsFrom_hump (upper : Text.isUppercase c = true) (s : List Char) :
    capitalsFrom true (c :: s) = '_' :: capitalsFrom false (c :: s) := by
  rw [capitalsFrom_cons, capitalsFrom_cons, upper]
  rfl

/-- A letter that goes on with a word, or starts one where no mark is needed. -/
theorem capitalsFrom_letter (noMark : isWordMark c = false)
    (sameWord : Text.isUppercase c = true → afterLower = false) (s : List Char) :
    capitalsFrom afterLower (c :: s) = c.toUpper :: capitalsFrom (!Text.isUppercase c) s := by
  have noLead : (afterLower && Text.isUppercase c) = false := by
    cases upper : Text.isUppercase c with
    | true => rw [sameWord upper, Bool.false_and]
    | false => exact Bool.and_false _
  rw [capitalsFrom_cons, noLead, noMark, Bool.not_false, Bool.and_true]
  rfl

/-- Whether a name goes on after a lower character behind a text. Only the text's last character counts. -/
def lowerBehind (afterLower : Bool) (s : List Char) : Bool :=
  s.getLast?.elim afterLower fun c => !Text.isUppercase c && !isWordMark c

theorem lowerBehind_cons (afterLower : Bool) (c : Char) (s : List Char) :
    lowerBehind afterLower (c :: s) = lowerBehind (!Text.isUppercase c && !isWordMark c) s := by
  unfold lowerBehind
  rw [List.getLast?_cons]
  cases s.getLast? <;> rfl

theorem capitalsFrom_append (afterLower : Bool) (s t : List Char) :
    capitalsFrom afterLower (s ++ t) =
      capitalsFrom afterLower s ++ capitalsFrom (lowerBehind afterLower s) t := by
  induction s generalizing afterLower with
  | nil => rfl
  | cons c s ih =>
    rw [List.cons_append, capitalsFrom_cons, capitalsFrom_cons, ih, lowerBehind_cons, List.append_assoc,
      List.cons_append]

/-- A single word is put into capitals as it is. -/
theorem capitalsFrom_of_isChain (noMarks : ∀ c ∈ w, isWordMark c = false)
    (word : w.IsChain fun a b => wordGoesOn a b = true)
    (sameWord : ∀ c ∈ w.head?, Text.isUppercase c = true → afterLower = false) :
    capitalsFrom afterLower w = w.map Char.toUpper := by
  induction w generalizing afterLower with
  | nil => rfl
  | cons c w ih =>
    rw [List.forall_mem_cons] at noMarks
    rw [List.isChain_cons] at word
    rw [capitalsFrom_letter noMarks.1 (sameWord c rfl), List.map_cons, ih noMarks.2 word.2]
    intro d next upper
    have goesOn := word.1 d next
    rw [wordGoesOn, upper, Bool.not_true, Bool.or_false] at goesOn
    rw [goesOn]
    rfl

theorem not_underscore_mem_map_toUpper (noMarks : ∀ c ∈ w, isWordMark c = false) :
    '_' ∉ w.map Char.toUpper := by
  intro mem
  obtain ⟨c, memWord, lifted⟩ := List.mem_map.1 mem
  have isMark := noMarks c memWord
  rw [toUpper_eq_underscore lifted] at isMark
  cases isMark

/-- The words of a piece without marks, with an underscore between any two. -/
theorem splitOn_capitalsFrom_flatten {words : List (List Char)} (someWords : words ≠ [])
    (filled : [] ∉ words) (noMarks : ∀ w ∈ words, ∀ c ∈ w, isWordMark c = false)
    (chains : ∀ w ∈ words, w.IsChain fun a b => wordGoesOn a b = true)
    (breaks : words.IsChain fun v w => ∃ hv hw, wordGoesOn (v.getLast hv) (w.head hw) = false) :
    (capitalsFrom false words.flatten).splitOn '_' = words.map (List.map Char.toUpper) := by
  induction words with
  | nil => exact absurd rfl someWords
  | cons w words ih =>
    have marksApart := not_underscore_mem_map_toUpper (noMarks w List.mem_cons_self)
    have capitals : capitalsFrom false w = w.map Char.toUpper :=
      capitalsFrom_of_isChain (noMarks w List.mem_cons_self) (chains w List.mem_cons_self)
        fun _ _ _ => rfl
    rw [List.flatten_cons, capitalsFrom_append, capitals]
    cases words with
    | nil =>
      have nothing (state : Bool) : capitalsFrom state [].flatten = [] := rfl
      rw [nothing, List.append_nil, List.splitOn_eq_singleton marksApart]
      rfl
    | cons v words =>
      rw [List.isChain_cons_cons] at breaks
      obtain ⟨⟨someW, someV, stops⟩, breaksRest⟩ := breaks
      obtain ⟨d, v, rfl⟩ := List.exists_cons_of_ne_nil someV
      have rest := ih (List.cons_ne_nil _ _) (fun empty => filled (List.mem_cons_of_mem _ empty))
        (fun u mem => noMarks u (List.mem_cons_of_mem _ mem))
        (fun u mem => chains u (List.mem_cons_of_mem _ mem)) breaksRest
      rw [wordGoesOn, Bool.or_eq_false_iff, List.head_cons, Bool.not_eq_false'] at stops
      obtain ⟨afterLower, upper⟩ := stops
      have noMark := noMarks w List.mem_cons_self _ (List.getLast_mem someW)
      have behind : lowerBehind false w = true := by
        rw [lowerBehind, List.getLast?_eq_some_getLast someW, Option.elim_some, afterLower, noMark]
        rfl
      rw [behind, List.flatten_cons, List.cons_append, capitalsFrom_hump upper,
        List.splitOn_append_cons_self, List.splitOn_eq_singleton marksApart, List.map_cons, ← rest]
      rfl

/-- The words of a name are what stands between the underscores of its constant. -/
theorem splitOn_capitalsFrom (s : List Char) :
    (capitalsFrom false s).splitOn '_' = (nameWords s).map (List.map Char.toUpper) := by
  induction length : s.length using Nat.strongRecOn generalizing s with
  | ind n ih =>
    by_cases marked : ∃ c ∈ s, isWordMark c = true
    · obtain ⟨c, mem, mark⟩ := marked
      obtain ⟨before, after, rfl⟩ := List.append_of_mem mem
      rw [List.length_append, List.length_cons] at length
      have left := ih before.length (by omega) before rfl
      have right := ih after.length (by omega) after rfl
      have words : nameWords (before ++ c :: after) = nameWords before ++ nameWords after := by
        unfold nameWords
        rw [List.splitOnP_append_cons before after mark, List.flatMap_append]
      rw [capitalsFrom_append, capitalsFrom_mark mark, List.splitOn_append_cons_self, left, right, words,
        List.map_append]
    · have noMarks : ∀ c ∈ s, isWordMark c = false := by
        intro c mem
        exact eq_false_of_ne_true fun mark => marked ⟨c, mem, mark⟩
      rw [nameWords, List.splitOnP_eq_singleton noMarks, List.flatMap_singleton]
      rcases eq_or_ne s [] with rfl | someText
      · rfl
      have pieces := splitOn_capitalsFrom_flatten (List.splitBy_ne_nil.2 someText)
        (List.nil_notMem_splitBy wordGoesOn s) (fun w memWords c memWord => noMarks c ?_)
        (fun w => List.isChain_of_mem_splitBy) (List.isChain_getLast_head_splitBy wordGoesOn s)
      · rw [List.flatten_splitBy] at pieces
        rw [humps, if_neg (mt List.isEmpty_iff.1 someText), pieces]
      · rw [← List.flatten_splitBy wordGoesOn s]
        exact List.mem_flatten_of_mem memWords memWord

end Capitals

/-- Two names have one constant exactly if they have the same words. -/
theorem constantName_eq_iff {a b : String} : constantName a = constantName b ↔ SameWords a b := by
  unfold constantName SameWords
  rw [← splitOn_capitalsFrom, ← splitOn_capitalsFrom, String.ofList_inj]
  constructor
  · exact congrArg _
  · intro same
    have joined := congrArg ['_'].intercalate same
    rwa [List.intercalate_splitOn, List.intercalate_splitOn] at joined

example : nameWords "createTime.max-ID".toList =
    ["create".toList, "Time".toList, "max".toList, "ID".toList] := by
  decide +kernel

/-! ## The constants of a layout -/

/-- The names of all constants that come with a layout: those of its query names, and the list of these. -/
def Layout.associatedNames (l : Layout) : List String := l.constants.map Prod.fst ++ ["FIELD_NAMES"]

namespace Declaration

variable {d : Declaration} {l : Layout}

/-- The constants of an accepted declaration have distinct names exactly if no two query names have the same
words, and none has those of the list of names. -/
theorem nodup_associatedNames_iff (ok : d.layout = .ok l) :
    l.associatedNames.Nodup ↔
      (∀ a ∈ l.names, ∀ b ∈ l.names, SameWords a b → a = b) ∧
        ∀ a ∈ l.names, ¬ SameWords a "FIELD_NAMES" := by
  have constants : l.constants.map Prod.fst = l.names.map constantName := by
    rw [Layout.constants, List.map_map]
    rfl
  have listName : constantName "FIELD_NAMES" = "FIELD_NAMES" := by decide +kernel
  rw [Layout.associatedNames, constants, List.perm_append_comm.nodup_iff, List.singleton_append,
    List.nodup_cons, and_comm, List.nodup_map_iff_inj_on (nodup_names_of_layout ok), List.mem_map,
    not_exists]
  simp only [constantName_eq_iff, not_and]
  refine and_congr_right fun _ => forall₂_congr fun a _ => not_congr ?_
  rw [← constantName_eq_iff, listName]

/-- The names of a host have words of their own, until one is called like the list of names. -/
theorem nodup_associatedNames_iff_of_hosts :
    let field (ident : String) : FieldDeclaration := ⟨ident, [⟨"field", [.path ["Text"]]⟩]⟩
    let camel : List Annotation := [⟨"record", [.assign "rename_all" (.string "camelCase")]⟩]
    let layout (fields : List FieldDeclaration) := (Declaration.mk camel (.fields fields)).layout
    (∃ l, layout [field "host_name", field "rack"] = .ok l ∧
      l.associatedNames = ["HOST_NAME", "RACK", "FIELD_NAMES"] ∧ l.associatedNames.Nodup) ∧
    ∃ l, layout [field "host_name", field "field_names"] = .ok l ∧ ¬ l.associatedNames.Nodup := by
  intro field camel layout
  have own : layout [field "host_name", field "rack"] =
      .ok ⟨[⟨"hostName", "host_name", .text⟩, ⟨"rack", "rack", .text⟩]⟩ := by
    decide +kernel
  have taken : layout [field "host_name", field "field_names"] =
      .ok ⟨[⟨"hostName", "host_name", .text⟩, ⟨"fieldNames", "field_names", .text⟩]⟩ := by
    decide +kernel
  refine ⟨⟨_, own, by decide +kernel, (nodup_associatedNames_iff own).2 (by decide +kernel)⟩, _, taken, ?_⟩
  intro distinct
  have apart := ((nodup_associatedNames_iff taken).1 distinct).2 "fieldNames" (by decide)
  exact apart (by decide +kernel)

/-- Distinct names with the same words pass, and give one constant twice. -/
theorem exists_repeated_constant :
    let field (ident name : String) : FieldDeclaration :=
      ⟨ident, [⟨"field", [.path ["Text"], .assign "rename" (.string name)]⟩]⟩
    ∃ l, (Declaration.mk [] (.fields [field "a" "a-b", field "b" "a_b"])).layout = .ok l ∧
      l.associatedNames = ["A_B", "A_B", "FIELD_NAMES"] ∧ ¬ l.associatedNames.Nodup := by
  intro field
  exact ⟨⟨[⟨"a-b", "a", .text⟩, ⟨"a_b", "b", .text⟩]⟩, by decide +kernel⟩

end Declaration

end RecordQuery
