import RecordQuery.Proofs.SortingWriting

/-!
What sortings are read from. In an order parameter each segment between commas spells a key, as a word for
the field with or without one for the direction; a parameter with other segments is refused for the first of
them (`Sorting.ofText_iff_spells`). In a list of tokens the word for the direction comes before each field, in
one spelling only, and a list that has anything else in it gives no keys at all (`Sorting.ofTokens_eq_iff`).
-/

namespace RecordQuery

theorem Direction.ofWord?_eq_some_iff {s : String} {direction : Direction} :
    ofWord? s = some direction ↔ s = direction.word := by
  constructor
  · intro found
    unfold ofWord? at found
    split at found
    case isTrue same =>
      cases found
      exact same
    case isFalse =>
      split at found
      case isTrue same =>
        cases found
        exact same
      case isFalse => cases found
  · rintro rfl
    cases direction <;> rfl

/-! ## Segments -/

/-- A segment spells a key: its word is the field, for the ascending direction, or the first of its two words
is, and the other one is the word for the direction in any letter case. -/
def SortKey.Spells (key : SortKey) (segment : List Char) : Prop :=
  Text.HasWords segment [key.field.toList] ∧ key.direction = .ascending ∨
    ∃ word, Text.HasWords segment [key.field.toList, word] ∧
      Text.lower word = key.direction.word.toList

/-- What a segment that spells no key is refused for: the second one of its two words, or the segment as it
is if it has fewer or more. -/
def Rejection.IsForSegment (reason : Rejection) (segment : List Char) : Prop :=
  (∃ field word, Text.HasWords segment [field, word] ∧ reason = .direction (String.ofList word)) ∨
    (∀ field word, ¬ Text.HasWords segment [field, word]) ∧
      reason = .orderSegment (String.ofList segment)

section Segments

variable {segment : List Char} {key : SortKey} {reason reason' : Rejection}

theorem Rejection.IsForSegment.unique (first : reason.IsForSegment segment)
    (second : reason'.IsForSegment segment) : reason = reason' := by
  rcases first with ⟨field, word, has, rfl⟩ | ⟨notTwo, rfl⟩
  · rcases second with ⟨_, _, has', rfl⟩ | ⟨notTwo, -⟩
    · cases has.words_eq.symm.trans has'.words_eq
      rfl
    · exact absurd has (notTwo field word)
  · rcases second with ⟨field, word, has, -⟩ | ⟨-, rfl⟩
    · exact absurd has (notTwo field word)
    · rfl

namespace SortKey

theorem ofSegment_eq_ok_iff_spells : ofSegment segment = .ok key ↔ key.Spells segment := by
  unfold Spells
  simp only [ofSegment_eq_ok_iff, Text.words_eq_iff, Direction.ofWord?_eq_some_iff, ← String.toList_inj,
    String.toList_ofList]

theorem isForSegment_of_ofSegment (failed : ofSegment segment = .error reason) :
    reason.IsForSegment segment := by
  unfold ofSegment at failed
  split at failed
  case h_1 => cases failed
  case h_2 field word words =>
    split at failed
    case h_1 => cases failed
    case h_2 =>
      cases failed
      exact .inl ⟨field, word, Text.words_eq_iff.1 words, rfl⟩
  case h_3 noWord notTwo =>
    cases failed
    exact .inr ⟨fun field word has => notTwo field word has.words_eq, rfl⟩

/-- A segment is refused exactly if it spells no key. -/
theorem ofSegment_eq_error_iff :
    ofSegment segment = .error reason ↔
      (¬ ∃ key : SortKey, key.Spells segment) ∧ reason.IsForSegment segment := by
  simp only [← ofSegment_eq_ok_iff_spells]
  constructor
  · intro failed
    refine ⟨?_, isForSegment_of_ofSegment failed⟩
    rintro ⟨key, ok⟩
    cases failed.symm.trans ok
  · rintro ⟨noKey, isFor⟩
    cases answer : ofSegment segment with
    | ok key => exact absurd ⟨key, answer⟩ noKey
    | error given => rw [(isForSegment_of_ofSegment answer).unique isFor]

end SortKey

end Segments

/-! ## Order parameters -/

namespace Sorting

variable {s : String} {sorting : Sorting} {reason : Rejection}

theorem ofText_of_ne_empty (nonempty : s ≠ "") :
    ofText s = ((s.toList.splitOn ',').mapM SortKey.ofSegment).map Sorting.mk :=
  if_neg (mt String.isEmpty_iff.1 nonempty)

theorem ofText_eq_ok_iff :
    ofText s = .ok sorting ↔
      s = "" ∧ sorting = empty ∨
        s ≠ "" ∧ List.Forall₂ (fun segment key => key.Spells segment) (s.toList.splitOn ',')
          sorting.keys := by
  rcases eq_or_ne s "" with rfl | nonempty
  · have read : ofText "" = .ok empty := rfl
    rw [read, Except.ok.injEq, eq_comm]
    simp
  · obtain ⟨keys⟩ := sorting
    rw [ofText_of_ne_empty nonempty, map_eq_ok_iff]
    simp only [Sorting.mk.injEq, exists_eq_right, mapM_eq_ok_iff, SortKey.ofSegment_eq_ok_iff_spells,
      nonempty, false_and, false_or, true_and, ne_eq, not_false_eq_true]

theorem ofText_eq_error_iff :
    ofText s = .error reason ↔
      s ≠ "" ∧ ∃ before segment after, s.toList.splitOn ',' = before ++ segment :: after ∧
        (∀ earlier ∈ before, ∃ key : SortKey, key.Spells earlier) ∧
        (¬ ∃ key : SortKey, key.Spells segment) ∧ reason.IsForSegment segment := by
  rcases eq_or_ne s "" with rfl | nonempty
  · exact iff_of_false nofun fun refused => refused.1 rfl
  · rw [ofText_of_ne_empty nonempty, map_eq_error_iff, mapM_eq_error_iff]
    simp only [SortKey.ofSegment_eq_ok_iff_spells, SortKey.ofSegment_eq_error_iff, nonempty, true_and,
      ne_eq, not_false_eq_true]

/-- An order parameter is read if it is empty or each of its segments spells a key, and then as these keys in
order. Otherwise it is refused for the first segment that does not. -/
theorem ofText_iff_spells (s : String) :
    ((∃ sorting, ofText s = .ok sorting) ↔
      s = "" ∨ ∀ segment ∈ s.toList.splitOn ',', ∃ key : SortKey, key.Spells segment) ∧
    (∀ sorting, ofText s = .ok sorting ↔
      s = "" ∧ sorting = empty ∨
        s ≠ "" ∧ List.Forall₂ (fun segment key => key.Spells segment) (s.toList.splitOn ',')
          sorting.keys) ∧
    ∀ reason, ofText s = .error reason ↔
      s ≠ "" ∧ ∃ before segment after, s.toList.splitOn ',' = before ++ segment :: after ∧
        (∀ earlier ∈ before, ∃ key : SortKey, key.Spells earlier) ∧
        (¬ ∃ key : SortKey, key.Spells segment) ∧ reason.IsForSegment segment := by
  refine ⟨⟨?_, fun spelled => ?_⟩, fun _ => ofText_eq_ok_iff, fun _ => ofText_eq_error_iff⟩
  · rintro ⟨sorting, ok⟩
    refine (ofText_eq_ok_iff.1 ok).imp And.left fun ⟨_, pairs⟩ segment mem => ?_
    obtain ⟨key, -, spells⟩ := exists_of_mem_of_forall₂ pairs mem
    exact ⟨key, spells⟩
  · cases answer : ofText s with
    | ok sorting => exact ⟨sorting, rfl⟩
    | error reason =>
      obtain ⟨nonempty, before, segment, after, split, -, noKey, -⟩ := ofText_eq_error_iff.1 answer
      have mem : segment ∈ s.toList.splitOn ',' := by
        rw [split]
        exact List.mem_append_cons_self
      exact absurd (spelled.resolve_left nonempty segment mem) noKey

/-- Of two segments that spell no key, the first is the reason. -/
example : ofText "id\u00a0DESC, ,name up" = .error (.orderSegment " ") := by decide +kernel

end Sorting

/-! ## Tokens -/

/-- The tokens of a key: the word for its direction, and its field. -/
def SortKey.tokens (key : SortKey) : List String := [key.direction.word, key.field]

namespace Sorting

/-- Only the tokens of keys are decoded, and to these keys. -/
theorem keysOfTokens?_eq_some_iff {tokens : List String} {keys : List SortKey} :
    keysOfTokens? tokens = some keys ↔ tokens = keys.flatMap SortKey.tokens := by
  induction tokens using keysOfTokens?.induct generalizing keys with
  | case1 =>
    cases keys with
    | nil => exact iff_of_true rfl rfl
    | cons key keys => exact iff_of_false nofun nofun
  | case2 word =>
    cases keys with
    | nil => exact iff_of_false nofun nofun
    | cons key keys => exact iff_of_false nofun nofun
  | case3 word field tokens ih =>
    rw [keysOfTokens?]
    simp only [Option.bind_eq_bind, Option.bind_eq_some_iff, Direction.ofWord?_eq_some_iff, ih,
      Option.pure_def, Option.some.injEq]
    constructor
    · rintro ⟨direction, rfl, keys, rfl, rfl⟩
      rfl
    · intro same
      cases keys with
      | nil => cases same
      | cons key keys =>
        cases same
        exact ⟨key.direction, rfl, keys, rfl, rfl⟩

/-- A list of tokens stands for keys exactly if it is made of their tokens in order. If it is not made of the
tokens of any keys, then it stands for the sorting without keys. -/
theorem ofTokens_eq_iff (tokens : List String) :
    (∀ keys, keys ≠ [] → (ofTokens tokens = ⟨keys⟩ ↔ tokens = keys.flatMap SortKey.tokens)) ∧
      ((∀ keys, keys ≠ [] → tokens ≠ keys.flatMap SortKey.tokens) → ofTokens tokens = empty) := by
  unfold ofTokens
  simp only [← keysOfTokens?_eq_some_iff, ne_eq]
  cases keysOfTokens? tokens with
  | none =>
    refine ⟨fun keys nonempty => iff_of_false (fun same => ?_) nofun, fun _ => rfl⟩
    exact nonempty (Sorting.mk.inj same).symm
  | some found =>
    refine ⟨fun keys _ => ?_, fun noKeys => ?_⟩
    · rw [Option.getD_some, Sorting.mk.injEq, Option.some.injEq]
    · have nothing : found = [] := by
        by_contra nonempty
        exact noKeys found nonempty rfl
      rw [nothing]
      rfl

/-- Fields may look like directions or be empty. Two keys are not read if a third one is given its direction
in capitals, or no field. -/
theorem ofTokens_eq_of_odd_fields :
    let keys : List SortKey := [⟨"desc", .ascending⟩, ⟨"", .descending⟩]
    let tokens : List String := ["asc", "desc", "desc", ""]
    keys ≠ [] ∧ ofTokens tokens = ⟨keys⟩ ∧ ofTokens (tokens ++ ["ASC", "id"]) = empty ∧
      ofTokens (tokens ++ ["asc"]) = empty := by
  intro keys tokens
  have someKeys : keys ≠ [] := List.cons_ne_nil _ _
  have noKeys (list : List String) (undecoded : keysOfTokens? list = none) (keys : List SortKey)
      (_ : keys ≠ []) : list ≠ keys.flatMap SortKey.tokens := by
    intro same
    rw [keysOfTokens?_eq_some_iff.2 same] at undecoded
    cases undecoded
  refine ⟨someKeys, ((ofTokens_eq_iff tokens).1 keys someKeys).2 rfl, ?_, ?_⟩
  · exact (ofTokens_eq_iff _).2 (noKeys _ (by decide))
  · exact (ofTokens_eq_iff _).2 (noKeys _ (by decide))

end Sorting

end RecordQuery
