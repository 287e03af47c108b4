import RecordQuery.Proofs.PageWindow
import RecordQuery.Proofs.StageOrder

/-!
The places that a query selects. Stages look at records only through the accessor, so a query may as well
be run on the places of a list: `Query.places` are the places that it selects, and the records at these
places are those that it selects (`Query.select_eq_places`).

This makes selections from different lists comparable. `Query.Alike` says what has to be the same for two
queries, each with its own accessor, to select the same (`Query.Alike.select_eq`): the records that they
accept, the kinds of the key fields, their orders, and the page. Run on the places of two lists, such
queries select the same places (`Query.Alike.selectsAlike`).
-/

namespace RecordQuery

variable {ρ : Type u} {σ : Type v} {q q' : Query} {access access' : Accessor ρ}

/-! ## Records seen through a function -/

theorem SortKey.lexOrder_comp (access : Accessor ρ) (f : σ → ρ) (keys : List SortKey) (a b : σ) :
    SortKey.lexOrder access keys (f a) (f b) = SortKey.lexOrder (access ∘ f) keys a b := by
  induction keys with
  | nil => rfl
  | cons key keys ih =>
    rw [lexOrder, lexOrder, ih]
    rfl

theorem oneKind_map (access : Accessor ρ) (f : σ → ρ) (keys : List SortKey) (records : List σ) :
    OneKind access keys (records.map f) ↔ OneKind (access ∘ f) keys records := by
  simp only [OneKind, List.forall_mem_map]
  rfl

theorem Page.window_map (p : Page) (f : σ → ρ) (records : List σ) :
    p.window (records.map f) = (p.window records).map f := by
  unfold window
  rw [List.length_map, List.map_drop, List.map_take]

namespace Selection

theorem paginate_records (q : Query) (s : Selection ρ) :
    (s.paginate q).records = q.page.elim s.records fun page => page.window s.records := by
  unfold paginate
  cases q.page <;> rfl

theorem sort_records_map (q : Query) (access : Accessor ρ) {f : σ → ρ} {s : Selection ρ}
    {t : Selection σ} (mapped : s.records = t.records.map f) :
    (s.sort q access).records = (t.sort q (access ∘ f)).records.map f := by
  by_cases oneKind : OneKind (access ∘ f) q.sorting.keys t.records
  case pos =>
    have oneKind' : OneKind access q.sorting.keys s.records := by
      rw [mapped, oneKind_map]
      exact oneKind
    rw [sort_records_of_oneKind oneKind, sort_records_of_oneKind oneKind', mapped, stableSort_map]
    simp only [SortKey.lexOrder_comp]
  case neg =>
    have mixed : ¬ OneKind access q.sorting.keys s.records := by
      rw [mapped, oneKind_map]
      exact oneKind
    rw [sort_records_of_not_oneKind oneKind, sort_records_of_not_oneKind mixed, mapped]

end Selection

namespace Query

/-- Selecting looks at records only through the accessor. -/
theorem select_map (q : Query) (access : Accessor ρ) (f : σ → ρ) (records : List σ) :
    q.select access (records.map f) = (q.select (access ∘ f) records).map f := by
  have filtered : ((Selection.ofRecords (records.map f)).filter q access).records =
      ((Selection.ofRecords records).filter q (access ∘ f)).records.map f := by
    rw [Selection.filter_records, Selection.filter_records]
    exact List.filter_map
  have sorted := Selection.sort_records_map q access filtered
  unfold select Selection.run
  rw [Selection.paginate_records, Selection.paginate_records, sorted]
  cases q.page with
  | none => rfl
  | some page => exact page.window_map f _

theorem count_map (q : Query) (access : Accessor ρ) (f : σ → ρ) (records : List σ) :
    q.count access (records.map f) = q.count (access ∘ f) records :=
  List.countP_map

/-! ## Places -/

/-- The fields of a record that may be missing. -/
def accessPresent (access : Accessor ρ) : Accessor (Option ρ) := fun record field =>
  record.bind fun r => access r field

/-- The fields of the record at a place of a list. -/
def accessAt (access : Accessor ρ) (records : List ρ) : Accessor Nat := fun i =>
  accessPresent access records[i]?

/-- The places of the records that a query selects from a list, in the order of the selection. -/
def places (q : Query) (access : Accessor ρ) (records : List ρ) : List Nat :=
  q.select (accessAt access records) (List.range records.length)

theorem map_some_eq_map_range (records : List ρ) :
    records.map some = (List.range records.length).map (records[·]?) := by
  apply List.ext_getElem
  · rw [List.length_map, List.length_map, List.length_range]
  · intro i below _
    rw [List.length_map] at below
    rw [List.getElem_map, List.getElem_map, List.getElem_range, List.getElem?_eq_getElem below]

/-- A query selects the records at the places that it selects. -/
theorem select_eq_places (q : Query) (access : Accessor ρ) (records : List ρ) :
    (q.select access records).map some = (q.places access records).map (records[·]?) :=
  calc (q.select access records).map some
    _ = q.select (accessPresent access) (records.map some) :=
      (q.select_map (accessPresent access) some records).symm
    _ = q.select (accessPresent access) ((List.range records.length).map (records[·]?)) := by
      rw [map_some_eq_map_range]
    _ = (q.places access records).map (records[·]?) :=
      q.select_map (accessPresent access) (records[·]?) (List.range records.length)

/-- A query counts places as it counts the records at them. -/
theorem count_accessAt (q : Query) (access : Accessor ρ) (records : List ρ) :
    q.count (accessAt access records) (List.range records.length) = q.count access records :=
  calc q.count (accessAt access records) (List.range records.length)
    _ = q.count (accessPresent access) ((List.range records.length).map (records[·]?)) :=
      (q.count_map (accessPresent access) (records[·]?) (List.range records.length)).symm
    _ = q.count (accessPresent access) (records.map some) := by rw [map_some_eq_map_range]
    _ = q.count access records := q.count_map (accessPresent access) some records

/-! ## Queries that select the same -/

/-- The fields that a query names. -/
def fields (q : Query) : List String :=
  q.filter.predicates.map Predicate.field ++ q.sorting.keys.map SortKey.field

theorem forall_mem_fields {P : String → Prop} :
    (∀ field ∈ q.fields, P field) ↔
      (∀ p ∈ q.filter.predicates, P p.field) ∧ ∀ key ∈ q.sorting.keys, P key.field := by
  rw [fields, List.forall_mem_append, List.forall_mem_map, List.forall_mem_map]

/-- Two queries, each with an accessor, tell the records of a list apart in the same way. -/
structure Alike (q q' : Query) (access access' : Accessor ρ) (records : List ρ) : Prop where
  accepts : ∀ r ∈ records, q.accepts access r = q'.accepts access' r
  sorting : q.sorting = q'.sorting
  kinds : ∀ key ∈ q.sorting.keys, ∀ r ∈ records,
    (access r key.field).map Value.kind = (access' r key.field).map Value.kind
  order : ∀ key ∈ q.sorting.keys, ∀ a ∈ records, ∀ b ∈ records,
    key.order access a b = key.order access' a b
  page : q.page = q'.page

end Query

theorem SortKey.lexOrder_congr {keys : List SortKey} {a b : ρ}
    (same : ∀ key ∈ keys, key.order access a b = key.order access' a b) :
    lexOrder access keys a b = lexOrder access' keys a b := by
  induction keys with
  | nil => rfl
  | cons key keys ih =>
    obtain ⟨first, rest⟩ := List.forall_mem_cons.1 same
    rw [lexOrder, lexOrder, first, ih rest]

namespace Query.Alike

variable {records : List ρ}

theorem of_subset {others : List ρ} (alike : q.Alike q' access access' records)
    (subset : others ⊆ records) : q.Alike q' access access' others where
  accepts r mem := alike.accepts r (subset mem)
  sorting := alike.sorting
  kinds key memKey r mem := alike.kinds key memKey r (subset mem)
  order key memKey a memA b memB := alike.order key memKey a (subset memA) b (subset memB)
  page := alike.page

theorem oneKind_iff (alike : q.Alike q' access access' records) :
    OneKind access q.sorting.keys records ↔ OneKind access' q'.sorting.keys records := by
  have kinds (access : Accessor ρ) (keys : List SortKey) : OneKind access keys records ↔
      ∀ key ∈ keys, ∃ kind, ∀ r ∈ records, (access r key.field).map Value.kind = some kind := by
    simp only [OneKind, Option.map_eq_some_iff]
  rw [kinds, kinds, ← alike.sorting]
  refine forall₂_congr fun key memKey => exists_congr fun kind => forall₂_congr fun r mem => ?_
  rw [alike.kinds key memKey r mem]

theorem sort_records_eq {s s' : Selection ρ} (same : s.records = s'.records)
    (alike : q.Alike q' access access' s.records) :
    (s.sort q access).records = (s'.sort q' access').records := by
  by_cases oneKind : OneKind access q.sorting.keys s.records
  case pos =>
    have oneKind' := alike.oneKind_iff.1 oneKind
    rw [same] at oneKind'
    rw [Selection.sort_records_of_oneKind oneKind, Selection.sort_records_of_oneKind oneKind', ← same,
      ← alike.sorting]
    refine stableSort_congr fun a memA b memB => ?_
    have sameOrder : SortKey.lexOrder access q.sorting.keys a b =
        SortKey.lexOrder access' q.sorting.keys a b :=
      SortKey.lexOrder_congr fun key memKey => alike.order key memKey a memA b memB
    rw [sameOrder]
  case neg =>
    have mixed := mt alike.oneKind_iff.2 oneKind
    rw [same] at mixed
    rw [Selection.sort_records_of_not_oneKind oneKind, Selection.sort_records_of_not_oneKind mixed, same]

/-- Such queries select the same records in the same order. -/
theorem select_eq (alike : q.Alike q' access access' records) :
    q.select access records = q'.select access' records := by
  have filtered : ((Selection.ofRecords records).filter q access).records =
      ((Selection.ofRecords records).filter q' access').records := by
    rw [Selection.filter_records, Selection.filter_records]
    exact List.filter_congr alike.accepts
  have left : ((Selection.ofRecords records).filter q access).records ⊆ records := by
    rw [Selection.filter_records]
    exact List.filter_subset_self _
  have sorted := sort_records_eq filtered (alike.of_subset left)
  unfold select Selection.run
  rw [Selection.paginate_records, Selection.paginate_records, sorted, alike.page]

theorem count_eq (alike : q.Alike q' access access' records) :
    q.count access records = q'.count access' records :=
  List.countP_congr fun r mem => Bool.eq_iff_iff.1 (alike.accepts r mem)

end Query.Alike

/-! ## Two lists -/

/-- Two queries select the records at the same places from two lists, in the same order, and count the
same number of records. -/
structure Query.SelectsAlike (q q' : Query) (access : Accessor ρ) (access' : Accessor σ)
    (records : List ρ) (others : List σ) : Prop where
  places : q.places access records = q'.places access' others
  selected : (q.select access records).map some = (q.places access records).map (records[·]?)
  selected' : (q'.select access' others).map some = (q.places access records).map (others[·]?)
  count : q.count access records = q'.count access' others

section TwoLists

variable {access' : Accessor σ} {records : List ρ} {others : List σ}

theorem Query.Alike.selectsAlike (sameLength : records.length = others.length)
    (alike : q.Alike q' (accessAt access records) (accessAt access' others)
      (List.range records.length)) : q.SelectsAlike q' access access' records others := by
  have samePlaces : q.places access records = q'.places access' others := by
    rw [places, alike.select_eq, places, sameLength]
  refine ⟨samePlaces, q.select_eq_places access records, ?_, ?_⟩
  · rw [q'.select_eq_places access' others, samePlaces]
  · rw [← q.count_accessAt access records, alike.count_eq, ← q'.count_accessAt access' others,
      sameLength]

/-- At each place, both lists have records that are related, or neither has one. -/
theorem getElem?_cases_of_forall₂ {R : ρ → σ → Prop} (pairs : List.Forall₂ R records others)
    (i : Nat) :
    records[i]? = none ∧ others[i]? = none ∨
      ∃ r r', records[i]? = some r ∧ others[i]? = some r' ∧ R r r' := by
  induction pairs generalizing i with
  | nil => exact .inl ⟨rfl, rfl⟩
  | cons related _ ih =>
    cases i with
    | zero => exact .inr ⟨_, _, rfl, rfl, related⟩
    | succ i => exact ih i

/-- What relates the fields of two records at one place relates the fields at every place, if it relates
missing fields. -/
theorem Query.accessAt_of_forall₂ {R : Option Value → Option Value → Prop} {fields : List String}
    (missing : R none none)
    (pairs : List.Forall₂ (fun r r' => ∀ field ∈ fields, R (access r field) (access' r' field))
      records others) (i : Nat) :
    ∀ field ∈ fields, R (accessAt access records i field) (accessAt access' others i field) := by
  intro field mem
  unfold accessAt accessPresent
  rcases getElem?_cases_of_forall₂ pairs i with ⟨none, none'⟩ | ⟨r, r', at', at'', related⟩
  · rw [none, none']
    exact missing
  · rw [at', at'']
    exact related field mem

end TwoLists

end RecordQuery
