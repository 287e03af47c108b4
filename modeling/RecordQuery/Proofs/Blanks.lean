import RecordQuery.Text.Blank
import Mathlib.Data.List.TakeWhile

/-!
What is left of a text without its blanks. Trimming takes blanks only, and takes them at both ends,
so the text is what is left with blanks around it (`exists_blanks_trim`). A text is cut into words at
every blank (`words_append_blank`), and words are without blanks and not empty (`mem_words`). So a text is
made of blanks and its words in one way only (`words_eq_iff`).
-/

namespace RecordQuery.Text

/-- A text that is made of blanks. -/
def AllBlank (s : List Char) : Prop := ∀ c ∈ s, isBlank c = true

/-- How many characters of a text are not blank. -/
def countSolid (s : List Char) : Nat := s.countP (!isBlank ·)

theorem allBlank_iff_countSolid {s : List Char} : AllBlank s ↔ countSolid s = 0 := by
  simp only [AllBlank, countSolid, List.countP_eq_zero, Bool.not_eq_true', Bool.not_eq_false]

theorem countSolid_append (s t : List Char) : countSolid (s ++ t) = countSolid s + countSolid t :=
  List.countP_append

/-! ## Trimming -/

section Trim

variable {s w : List Char}

theorem exists_blanks_trimStart (s : List Char) : ∃ w, AllBlank w ∧ s = w ++ trimStart s :=
  ⟨s.takeWhile isBlank, fun _ mem => List.mem_takeWhile_imp mem,
    List.takeWhile_append_dropWhile.symm⟩

/-- A text is what is left of it with blanks on both sides. -/
theorem exists_blanks_trim (s : List Char) :
    ∃ w w', AllBlank w ∧ AllBlank w' ∧ s = w ++ trim s ++ w' := by
  obtain ⟨w, blankBefore, whole⟩ := exists_blanks_trimStart s
  obtain ⟨w', blankAfter, reversed⟩ := exists_blanks_trimStart (trimStart s).reverse
  refine ⟨w, w'.reverse, blankBefore, fun c mem => blankAfter c (List.mem_reverse.1 mem), ?_⟩
  have rest : trimStart s = trim s ++ w'.reverse := by
    rw [trim, ← List.reverse_append, ← reversed, List.reverse_reverse]
  rw [List.append_assoc, ← rest]
  exact whole

theorem countSolid_trim (s : List Char) : countSolid (trim s) = countSolid s := by
  obtain ⟨w, w', blankBefore, blankAfter, whole⟩ := exists_blanks_trim s
  have counts := congrArg countSolid whole
  rw [countSolid_append, countSolid_append, allBlank_iff_countSolid.1 blankBefore,
    allBlank_iff_countSolid.1 blankAfter, Nat.zero_add, Nat.add_zero] at counts
  exact counts.symm

theorem trim_append_of_allBlank (blank : AllBlank w) (s : List Char) : trim (w ++ s) = trim s := by
  have start : trimStart (w ++ s) = trimStart s := List.dropWhile_append_of_pos blank
  rw [trim, trim, start]

theorem trim_of_allBlank (blank : AllBlank s) : trim s = [] := by
  have nothing : trimStart s = [] := List.dropWhile_eq_nil_iff.2 blank
  rw [trim, nothing]
  rfl

/-- Nothing is left of a text exactly if it is made of blanks. -/
theorem trim_eq_nil_iff : trim s = [] ↔ AllBlank s := by
  refine ⟨fun nothing => ?_, trim_of_allBlank⟩
  rw [allBlank_iff_countSolid, ← countSolid_trim, nothing]
  rfl

theorem mem_of_mem_trim {c : Char} (mem : c ∈ trim s) : c ∈ s := by
  obtain ⟨w, w', -, -, whole⟩ := exists_blanks_trim s
  rw [whole]
  exact List.mem_append_left w' (List.mem_append_right w mem)

end Trim

/-! ## Words -/

section Words

variable {b : Char} {s t w : List Char} {ts : List (List Char)}

theorem mem_of_mem_splitOnP {p : Char → Bool} (mem : w ∈ s.splitOnP p) :
    ∀ c ∈ w, c ∈ s ∧ p c = false := by
  induction s generalizing w with
  | nil =>
    rw [List.splitOnP_nil, List.mem_singleton] at mem
    subst mem
    exact fun _ memW => absurd memW List.not_mem_nil
  | cons d s ih =>
    rw [List.splitOnP_cons_eq_if_modifyHead] at mem
    have later : w ∈ s.splitOnP p → ∀ c ∈ w, c ∈ d :: s ∧ p c = false :=
      fun memRest c memW => ⟨List.mem_cons_of_mem d (ih memRest c memW).1, (ih memRest c memW).2⟩
    split at mem
    case isTrue =>
      rcases List.mem_cons.1 mem with rfl | memRest
      · exact fun _ memW => absurd memW List.not_mem_nil
      · exact later memRest
    case isFalse notSep =>
      obtain ⟨first, rest, pieces⟩ := List.exists_cons_of_ne_nil (List.splitOnP_ne_nil p s)
      rw [pieces, List.modifyHead_cons] at mem
      rcases List.mem_cons.1 mem with rfl | memRest
      · intro c memW
        rcases List.mem_cons.1 memW with rfl | memFirst
        · exact ⟨List.mem_cons_self, Bool.eq_false_iff.2 notSep⟩
        · have found := ih (pieces ▸ List.mem_cons_self) c memFirst
          exact ⟨List.mem_cons_of_mem d found.1, found.2⟩
      · exact later (pieces ▸ List.mem_cons_of_mem first memRest)

/-- A word has characters, none of them blank, and they come from the text. -/
theorem mem_words (mem : w ∈ words s) : w ≠ [] ∧ ∀ c ∈ w, c ∈ s ∧ isBlank c = false := by
  obtain ⟨memPieces, notEmpty⟩ := List.mem_filter.1 mem
  refine ⟨?_, mem_of_mem_splitOnP memPieces⟩
  rintro rfl
  cases notEmpty

/-- The words before a blank and the words after it are those of the text. -/
theorem words_append_blank (blank : isBlank b = true) (s t : List Char) :
    words (s ++ b :: t) = words s ++ words t := by
  rw [words, List.splitOnP_append_cons s t blank, List.filter_append]
  rfl

theorem words_blank_cons (blank : isBlank b = true) (t : List Char) : words (b :: t) = words t :=
  words_append_blank blank [] t

theorem words_eq_singleton (nonempty : w ≠ []) (solid : ∀ c ∈ w, isBlank c = false) :
    words w = [w] := by
  rw [words, List.splitOnP_eq_singleton solid, List.filter_cons,
    List.isEmpty_eq_false_iff.2 nonempty]
  rfl

/-- A text is made of blanks and the given words, which have characters, none of them blank, and at least
one blank between any two. -/
inductive HasWords : List Char → List (List Char) → Prop
  /-- Blanks, and no more words. -/
  | blank {s : List Char} (blank : AllBlank s) : HasWords s []
  /-- Blanks, a word that ends where the text does or at a blank, and what comes then. -/
  | word {w t s : List Char} {ts : List (List Char)} (blank : AllBlank w) (nonempty : t ≠ [])
    (solid : ∀ c ∈ t, isBlank c = false) (ends : ∀ c ∈ s.head?, isBlank c = true)
    (rest : HasWords s ts) : HasWords (w ++ t ++ s) (t :: ts)

theorem words_append_of_allBlank (blank : AllBlank w) (s : List Char) : words (w ++ s) = words s := by
  induction w with
  | nil => rfl
  | cons b w ih =>
    rw [List.cons_append, words_blank_cons (blank b List.mem_cons_self)]
    exact ih fun c mem => blank c (List.mem_cons_of_mem b mem)

theorem words_append_of_ends (nonempty : t ≠ []) (solid : ∀ c ∈ t, isBlank c = false)
    (ends : ∀ c ∈ s.head?, isBlank c = true) : words (t ++ s) = t :: words s := by
  have word : words t = [t] := words_eq_singleton nonempty solid
  cases s with
  | nil =>
    rw [List.append_nil]
    exact word
  | cons b s =>
    have blank : isBlank b = true := ends b rfl
    rw [words_append_blank blank, words_blank_cons blank, word]
    rfl

theorem HasWords.words_eq (has : HasWords s ts) : words s = ts := by
  induction has with
  | blank blank =>
    have nothing := words_append_of_allBlank blank []
    rwa [List.append_nil] at nothing
  | word blank nonempty solid ends _ ih =>
    rw [List.append_assoc, words_append_of_allBlank blank, words_append_of_ends nonempty solid ends, ih]

/-- One more character in front of a text belongs to the blanks there, or to its first word, or is a word. -/
theorem HasWords.exists_cons (has : HasWords s ts) (c : Char) : ∃ ts', HasWords (c :: s) ts' := by
  cases kind : isBlank c with
  | true =>
    cases has with
    | blank blank => exact ⟨_, .blank (List.forall_mem_cons.2 ⟨kind, blank⟩)⟩
    | word blank nonempty solid ends rest =>
      exact ⟨_, .word (List.forall_mem_cons.2 ⟨kind, blank⟩) nonempty solid ends rest⟩
  | false =>
    have nothing : AllBlank [] := nofun
    have letter : ∀ d ∈ [c], isBlank d = false := List.forall_mem_singleton.2 kind
    cases has with
    | blank blank =>
      have ends : ∀ d ∈ s.head?, isBlank d = true := fun d mem => blank d (List.mem_of_mem_head? mem)
      exact ⟨_, .word nothing (List.cons_ne_nil c []) letter ends (.blank blank)⟩
    | @word w t s ts blank nonempty solid ends rest =>
      cases w with
      | nil =>
        exact ⟨_, .word nothing (List.cons_ne_nil c t) (List.forall_mem_cons.2 ⟨kind, solid⟩) ends rest⟩
      | cons b w =>
        have endsAtBlank : ∀ d ∈ (b :: w ++ t ++ s).head?, isBlank d = true :=
          fun d mem => blank d (List.mem_of_mem_head? mem)
        exact ⟨_, .word nothing (List.cons_ne_nil c []) letter endsAtBlank
          (.word blank nonempty solid ends rest)⟩

theorem exists_hasWords (s : List Char) : ∃ ts, HasWords s ts := by
  induction s with
  | nil => exact ⟨[], .blank nofun⟩
  | cons c s ih =>
    obtain ⟨ts, has⟩ := ih
    exact has.exists_cons c

/-- A text is made of its words and blanks, in this way only. -/
theorem words_eq_iff : words s = ts ↔ HasWords s ts := by
  refine ⟨?_, HasWords.words_eq⟩
  rintro rfl
  obtain ⟨ts, has⟩ := exists_hasWords s
  rwa [has.words_eq]

end Words

end RecordQuery.Text
