import RecordQuery.Proofs.FilterMeaning
import RecordQuery.Proofs.LowerCase
import RecordQuery.Proofs.SelectionPlaces

/-!
Letter case does not count. ASCII letters and their lower case are alike in everything that putting a text
into lower case looks at (`Text.toLower_congr`), also beside other characters, so texts that differ in the
case of ASCII letters alone have one lower case and one pattern (`Text.lower_map_toLower`,
`Pattern.compile_congr`).

Carried to queries, this means that neither the case in which a query spells its texts nor that in
which the records do changes anything (`Query.selectsAlike_of_caseVariant`).
-/

namespace RecordQuery

/-! ## Characters -/

namespace Text

/-- What ASCII characters share with their lower case, all characters do. -/
theorem toLower_congr {α : Type u} {f : Char → α}
    (ascii : ∀ n < 0x80, f (Char.ofNat n).toLower = f (Char.ofNat n)) (c : Char) :
    f c.toLower = f c := by
  by_cases below : c.toNat < 0x80
  case pos =>
    have same := ascii c.toNat below
    rwa [Char.ofNat_toNat] at same
  case neg =>
    have notCapital : c.toLower = c := by
      refine dif_neg ?_
      rintro ⟨-, atMostZ⟩
      exact below (Nat.lt_of_le_of_lt (UInt32.le_iff_toNat_le.1 atMostZ) (by decide))
    rw [notCapital]

theorem lowerChar_toLower (c : Char) : lowerChar c.toLower = lowerChar c :=
  toLower_congr (by decide +kernel) c

theorem isCased_toLower (c : Char) : isCased c.toLower = isCased c :=
  toLower_congr (by decide +kernel) c

theorem isCaseIgnorable_toLower (c : Char) : isCaseIgnorable c.toLower = isCaseIgnorable c :=
  toLower_congr (by decide +kernel) c

theorem toLower_eq_sigma {c : Char} : c.toLower = 'Σ' ↔ c = 'Σ' :=
  decide_eq_decide.1 (toLower_congr (f := fun c => decide (c = 'Σ')) (by decide +kernel) c)

/-! ## Texts -/

theorem fold_map_toLower (s : List Char) : fold (s.map Char.toLower) = fold s := by
  unfold fold
  rw [List.flatMap_map]
  simp only [lowerChar_toLower]

theorem startsCased_map_toLower (s : List Char) :
    startsCased (s.map Char.toLower) = startsCased s := by
  unfold startsCased
  rw [List.dropWhile_map]
  have ignored : isCaseIgnorable ∘ Char.toLower = isCaseIgnorable :=
    funext isCaseIgnorable_toLower
  rw [ignored]
  cases s.dropWhile isCaseIgnorable with
  | nil => rfl
  | cons c _ => exact isCased_toLower c

theorem lowerIn_map_toLower (afterCased : Bool) (c : Char) (rest : List Char) :
    lowerIn afterCased c.toLower (rest.map Char.toLower) = lowerIn afterCased c rest := by
  unfold lowerIn
  rw [startsCased_map_toLower, lowerChar_toLower]
  simp only [toLower_eq_sigma]

theorem lowerOnto_map_toLower (done : List Char) (afterCased : Bool) (s : List Char) :
    lowerOnto done afterCased (s.map Char.toLower) = lowerOnto done afterCased s := by
  induction s generalizing done afterCased with
  | nil => rfl
  | cons c s ih =>
    rw [List.map_cons, lowerOnto, lowerOnto, lowerIn_map_toLower, isCaseIgnorable_toLower,
      isCased_toLower, ih]

/-- The lower case of a text does not change if its ASCII letters are put into lower case first. -/
theorem lower_map_toLower (s : List Char) : lower (s.map Char.toLower) = lower s :=
  lowerOnto_map_toLower [] false s

/-- Two texts are the same but for the case of ASCII letters. -/
def CaseVariant (s t : String) : Prop := s.toList.map Char.toLower = t.toList.map Char.toLower

section Variants

variable {s t : String}

instance : Decidable (CaseVariant s t) :=
  inferInstanceAs (Decidable (s.toList.map Char.toLower = t.toList.map Char.toLower))

theorem CaseVariant.lower_eq (variant : CaseVariant s t) : lower s.toList = lower t.toList := by
  rw [← lower_map_toLower, variant, lower_map_toLower]

theorem CaseVariant.fold_eq (variant : CaseVariant s t) : fold s.toList = fold t.toList := by
  rw [← fold_map_toLower, variant, fold_map_toLower]

end Variants

end Text

theorem Pattern.compile_congr {needle needle' : String} (variant : Text.CaseVariant needle needle') :
    compile needle = compile needle' := by
  rw [compile, compile, variant.lower_eq]

theorem Pattern.accepts_congr (p : Pattern) {haystack haystack' : String}
    (variant : Text.CaseVariant haystack haystack') : p.accepts haystack = p.accepts haystack' := by
  rw [accepts, accepts, variant.lower_eq]

/-! ## Values -/

/-- Two values are texts, and the same but for the case of ASCII letters. -/
inductive Value.TextVariant : Value → Value → Prop
  | intro {s t : String} (same : Text.CaseVariant s t) : TextVariant (.text s) (.text t)

/-- Two values are the same, or texts that are the same but for the case of ASCII letters. -/
def Value.CaseVariant (v w : Value) : Prop := v = w ∨ v.TextVariant w

theorem Value.TextVariant.map_kind_eq {v w : Option Value} (texts : Option.Rel TextVariant v w) :
    v.map kind = w.map kind := by
  cases texts with
  | none => rfl
  | some variant =>
    cases variant
    rfl

theorem Value.order_congr {v v' w w' : Value} (left : v.TextVariant v') (right : w.TextVariant w') :
    v.order w = v'.order w' := by
  cases left with
  | intro sameLeft =>
    cases right with
    | intro sameRight =>
      rw [order_text, order_text, compareText, compareText, sameLeft.fold_eq, sameRight.fold_eq]

/-- A needle finds a text whatever the case of either. A needle of another kind does not find texts. -/
theorem Needle.ofValue_accepts_congr {needle needle' v v' : Value}
    (needles : needle.CaseVariant needle') (texts : v.TextVariant v') :
    (ofValue needle).accepts v = (ofValue needle').accepts v' := by
  cases texts with
  | intro sameText =>
    rcases needles with rfl | ⟨⟨sameNeedle⟩⟩
    · cases needle with
      | text raw => exact (Pattern.compile raw).accepts_congr sameText
      | int _ | rfc3339 _ | instant _ => rfl
    · rw [ofValue, ofValue, Pattern.compile_congr sameNeedle]
      exact Pattern.accepts_congr _ sameText

theorem Needle.ofValue_any_accepts_congr {needle needle' : Value} {v v' : Option Value}
    (needles : needle.CaseVariant needle') (texts : Option.Rel Value.TextVariant v v') :
    v.any (ofValue needle).accepts = v'.any (ofValue needle').accepts := by
  cases texts with
  | none => rfl
  | some text => exact ofValue_accepts_congr needles text

/-! ## Queries -/

/-- Two predicates name one field, and their values are the same but for the case of ASCII letters. -/
def Predicate.CaseVariant (p p' : Predicate) : Prop :=
  p.field = p'.field ∧ p.value.CaseVariant p'.value

/-- Two queries are the same but for the case of ASCII letters in the texts of their predicates. -/
structure Query.CaseVariant (q q' : Query) : Prop where
  predicates : List.Forall₂ Predicate.CaseVariant q.filter.predicates q'.filter.predicates
  sorting : q.sorting = q'.sorting
  page : q.page = q'.page

variable {ρ : Type u} {σ : Type v}

/-- Place by place, two lists of records have texts under some fields that are the same but for the
case of ASCII letters, or both have nothing there. -/
def VariantOn (fields : List String) (access : Accessor ρ) (access' : Accessor σ) :
    List ρ → List σ → Prop :=
  List.Forall₂ fun r r' =>
    ∀ field ∈ fields, Option.Rel Value.TextVariant (access r field) (access' r' field)

theorem any_congr_of_forall₂ {α : Type u} {β : Type v} {R : α → β → Prop} {xs : List α}
    {ys : List β} {test : α → Bool} {test' : β → Bool} (pairs : List.Forall₂ R xs ys)
    (same : ∀ x ∈ xs, ∀ y, R x y → test x = test' y) : xs.any test = ys.any test' := by
  induction pairs with
  | nil => rfl
  | cons related _ ih =>
    obtain ⟨first, rest⟩ := List.forall_mem_cons.1 same
    rw [List.any_cons, List.any_cons, first _ related, ih rest]

theorem Filter.matcher_accepts_congr {f f' : Filter} {field field' : String → Option Value}
    (predicates : List.Forall₂ Predicate.CaseVariant f.predicates f'.predicates)
    (texts : ∀ p ∈ f.predicates, Option.Rel Value.TextVariant (field p.field) (field' p.field)) :
    f.matcher.accepts field = f'.matcher.accepts field' := by
  have sameEmpty : f.predicates.isEmpty = f'.predicates.isEmpty := by
    rw [Bool.eq_iff_iff, List.isEmpty_iff_length_eq_zero, List.isEmpty_iff_length_eq_zero,
      predicates.length_eq]
  have sameAny : (f.predicates.any fun p => (field p.field).any (Needle.ofValue p.value).accepts) =
      f'.predicates.any fun p => (field' p.field).any (Needle.ofValue p.value).accepts := by
    refine any_congr_of_forall₂ predicates fun p mem p' variant => ?_
    obtain ⟨sameField, values⟩ := variant
    rw [← sameField]
    exact Needle.ofValue_any_accepts_congr values (texts p mem)
  -- Texts that differ in case alone are two texts for the table of patterns, which may thus be longer on
  -- one side. The needles do not show it.
  rw [matcher_eq, matcher_eq, Matcher.accepts, Matcher.accepts, List.isEmpty_map, List.isEmpty_map,
    sameEmpty, List.any_map, List.any_map]
  exact congrArg _ sameAny

theorem SortKey.order_congr {key : SortKey} {access access' : Accessor ρ} {a b : ρ}
    (left : Option.Rel Value.TextVariant (access a key.field) (access' a key.field))
    (right : Option.Rel Value.TextVariant (access b key.field) (access' b key.field)) :
    key.order access a b = key.order access' a b := by
  unfold order
  generalize access a key.field = v, access' a key.field = v', access b key.field = w,
    access' b key.field = w' at left right
  cases left with
  | none => rfl
  | some left =>
    cases right with
    | none => rfl
    | some right =>
      dsimp only
      rw [Value.order_congr left right]

/-- Two accessors under which a query and a variant of it see variants of the same texts are alike for
them. -/
theorem Query.alike_of_caseVariant {q q' : Query} {access access' : Accessor ρ}
    (variant : q.CaseVariant q')
    (texts : ∀ r, ∀ field ∈ q.fields, Option.Rel Value.TextVariant (access r field) (access' r field))
    (records : List ρ) : q.Alike q' access access' records where
  accepts r _ := Filter.matcher_accepts_congr variant.predicates (forall_mem_fields.1 (texts r)).1
  sorting := variant.sorting
  kinds key mem r _ := Value.TextVariant.map_kind_eq ((forall_mem_fields.1 (texts r)).2 key mem)
  order key mem a _ b _ :=
    SortKey.order_congr ((forall_mem_fields.1 (texts a)).2 key mem)
      ((forall_mem_fields.1 (texts b)).2 key mem)
  page := variant.page

/-- Where a query names texts only, the case of ASCII letters makes no difference, neither in the query
nor in the records: the same places are selected in the same order, out of the same number. -/
theorem Query.selectsAlike_of_caseVariant (q q' : Query) (access : Accessor ρ) (access' : Accessor σ)
    (records : List ρ) (others : List σ) (variant : q.CaseVariant q')
    (texts : VariantOn q.fields access access' records others) :
    q.SelectsAlike q' access access' records others :=
  Alike.selectsAlike texts.length_eq (alike_of_caseVariant variant (accessAt_of_forall₂ .none texts) _)

/-- Streets and towns, of which some have a zone. A sigma at the end of a word and a capital I with a dot
stay as they are, next to letters that change. -/
theorem Query.selectsAlike_of_caseVariant_of_towns :
    let access : Accessor (String × Option String) := fun r field =>
      if field = "name" then some (.text r.1)
      else if field = "zone" then r.2.map Value.text else none
    let sorting : Sorting := ⟨[⟨"name", .descending⟩]⟩
    let q : Query := {
      filter := ⟨[⟨"name", .text "*aΣ"⟩, ⟨"zone", .text "EU"⟩, ⟨"name", .int 1⟩]⟩
      sorting
      page := some ⟨2, 1⟩ }
    let q' : Query := {
      filter := ⟨[⟨"name", .text "*AΣ"⟩, ⟨"zone", .text "eu"⟩, ⟨"name", .int 1⟩]⟩
      sorting
      page := some ⟨2, 1⟩ }
    let records : List (String × Option String) :=
      [("Street AΣ", none), ("İzmir", some "eu-1"), ("b", some "us"), ("Abc", some "Eu")]
    let others : List (String × Option String) :=
      [("sTREET aΣ", none), ("İZMIR", some "EU-1"), ("B", some "Us"), ("aBC", some "eU")]
    q.CaseVariant q' ∧ VariantOn q.fields access access records others ∧
      q.SelectsAlike q' access access records others ∧ q.places access records = [1, 3] := by
  intro access sorting q q' records others
  have variant : q.CaseVariant q' := {
    predicates :=
      .cons ⟨rfl, .inr ⟨by decide⟩⟩ (.cons ⟨rfl, .inr ⟨by decide⟩⟩ (.cons ⟨rfl, .inl rfl⟩ .nil))
    sorting := rfl
    page := rfl }
  have texts : VariantOn q.fields access access records others := by
    have only : ∀ field ∈ q.fields, field = "name" ∨ field = "zone" := by decide
    have onFields (r r' : String × Option String) (names : Text.CaseVariant r.1 r'.1)
        (zones : Option.Rel Text.CaseVariant r.2 r'.2) :
        ∀ field ∈ q.fields, Option.Rel Value.TextVariant (access r field) (access r' field) := by
      intro field mem
      obtain ⟨_, zone⟩ := r
      obtain ⟨_, zone'⟩ := r'
      rcases only field mem with rfl | rfl
      · exact .some ⟨names⟩
      · cases zones with
        | none => exact .none
        | some same => exact .some ⟨same⟩
    exact .cons (onFields _ _ (by decide) .none) (.cons (onFields _ _ (by decide) (.some (by decide)))
      (.cons (onFields _ _ (by decide) (.some (by decide)))
        (.cons (onFields _ _ (by decide) (.some (by decide))) .nil)))
  exact ⟨variant, texts, selectsAlike_of_caseVariant q q' access access records others variant texts,
    by decide +kernel⟩

end RecordQuery
