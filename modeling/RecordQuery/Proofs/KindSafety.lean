import RecordQuery.Proofs.StageOrder

/-!
Values of two kinds are never compared. `Selection.applyAll?` runs stages as `Selection.applyAll` does,
only that it has no result once two such values are compared; it always has one
(`Selection.applyAll?_eq_some`).

There are two guards, and both ways of running have them in common. Containment looks at the kinds before
it compares (`Value.containsBy`). Sorting goes through the rows beforehand (`Selection.sortRows`): in rows
that were gathered, any two have the same kinds under all keys (`sameKinds_of_sortRows`), so it does not
matter which pairs a way of sorting compares, nor how far it goes down the keys. Where no rows can be
gathered, the records stay as they are.
-/

namespace RecordQuery

variable {α : Type u} {ρ : Type u} {access : Accessor ρ}

/-! ## Containment -/

/-- Whether a value contains a needle. There is no answer if values of two kinds are compared. -/
def Value.contains? : Value → Value → Option Bool :=
  containsBy some fun v needle => (v.compare? needle).map (· == .eq)

theorem Value.contains?_eq_some (v needle : Value) :
    v.contains? needle = some (v.contains needle) := by
  cases v <;> cases needle <;> rfl

theorem elim_eq_some_any {test? : α → Option Bool} {test : α → Bool}
    (answers : ∀ x, test? x = some (test x)) (o : Option α) :
    o.elim (some false) test? = some (o.any test) := by
  cases o with
  | none => rfl
  | some x => exact answers x

/-- Whether a field's value contains a needle, if no values of two kinds are compared. -/
def Needle.accepts? : Needle → Value → Option Bool
  | .text _ pattern, .text haystack => some (pattern.accepts haystack)
  | .text raw _, value => (value.kind.read? raw).elim (some false) value.contains?
  | .typed needle, value => value.contains? needle

theorem Needle.accepts?_eq_some (needle : Needle) (v : Value) :
    needle.accepts? v = some (needle.accepts v) := by
  cases needle with
  | typed needle => exact v.contains?_eq_some needle
  | text raw pattern =>
    cases v with
    | text haystack => rfl
    | int n => exact elim_eq_some_any (Value.contains?_eq_some (.int n)) (Kind.int.read? raw)
    | rfc3339 s =>
      exact elim_eq_some_any (Value.contains?_eq_some (.rfc3339 s)) (Kind.rfc3339.read? raw)
    | instant t =>
      exact elim_eq_some_any (Value.contains?_eq_some (.instant t)) (Kind.instant.read? raw)

/-- Whether a record is kept, if no values of two kinds are compared. -/
def Matcher.accepts? (m : Matcher) (field : String → Option Value) : Option Bool :=
  if m.needles.isEmpty then some true
  else m.needles.anyM fun (name, needle) => (field name).elim (some false) needle.accepts?

theorem Matcher.accepts?_eq_some (m : Matcher) (field : String → Option Value) :
    m.accepts? field = some (m.accepts field) := by
  unfold accepts? accepts
  split
  case isTrue empty =>
    rw [empty]
    rfl
  case isFalse nonempty =>
    have single (name : String) (needle : Needle) :
        (field name).elim (some false) needle.accepts? = some ((field name).any needle.accepts) :=
      elim_eq_some_any needle.accepts?_eq_some _
    simp only [single, Bool.eq_false_iff.2 nonempty, Bool.false_or]
    exact List.anyM_pure

/-! ## Lists -/

/-- The elements that a test keeps, if it has an answer for each of them. -/
def keep? (test : α → Option Bool) : List α → Option (List α)
  | [] => some []
  | x :: xs =>
    (test x).bind fun kept => (keep? test xs).map fun rest => if kept then x :: rest else rest

theorem keep?_eq_some (test : α → Bool) (xs : List α) :
    keep? (fun x => some (test x)) xs = some (xs.filter test) := by
  induction xs with
  | nil => rfl
  | cons x xs ih => rw [keep?, ih, List.filter_cons, Option.bind_some, Option.map_some]

/-- `settle` with a comparison that may have no answer. -/
def settle? (precedes : α → α → Option Bool) (x : α) : List α → Option (List α)
  | [] => some [x]
  | y :: placed =>
    (precedes x y).bind fun before =>
      if before then (settle? precedes x placed).map (y :: ·) else some (x :: y :: placed)

/-- `stableSort` with a comparison that may have no answer. -/
def stableSort? (precedes : α → α → Option Bool) (xs : List α) : Option (List α) :=
  (xs.foldlM (fun placed x => settle? precedes x placed) []).map List.reverse

section Comparison

variable {precedes? : α → α → Option Bool} {precedes : α → α → Bool}

theorem settle?_eq_some {x : α} {placed : List α}
    (answers : ∀ y ∈ placed, precedes? x y = some (precedes x y)) :
    settle? precedes? x placed = some (settle precedes x placed) := by
  induction placed with
  | nil => rfl
  | cons y placed ih =>
    obtain ⟨first, rest⟩ := List.forall_mem_cons.1 answers
    rw [settle?, settle, first, ih rest, Option.bind_some]
    split <;> rfl

/-- Sorting compares elements of the list only. -/
theorem stableSort?_eq_some {xs : List α}
    (answers : ∀ a ∈ xs, ∀ b ∈ xs, precedes? a b = some (precedes a b)) :
    stableSort? precedes? xs = some (stableSort precedes xs) := by
  suffices placing : ∀ ys placed : List α, (∀ y ∈ ys, y ∈ xs) → (∀ y ∈ placed, y ∈ xs) →
      ys.foldlM (fun placed x => settle? precedes? x placed) placed =
        some (ys.foldl (fun placed x => settle precedes x placed) placed) by
    rw [stableSort?, placing xs [] (fun _ mem => mem) fun _ mem => absurd mem List.not_mem_nil]
    rfl
  intro ys
  induction ys with
  | nil => exact fun _ _ _ => rfl
  | cons y ys ih =>
    intro placed toPlace already
    obtain ⟨memY, rest⟩ := List.forall_mem_cons.1 toPlace
    have settled : settle? precedes? y placed = some (settle precedes y placed) :=
      settle?_eq_some fun z mem => answers y memY z (already z mem)
    rw [List.foldlM_cons, settled, List.foldl_cons]
    refine ih _ rest fun z mem => ?_
    rcases List.mem_cons.1 ((settle_perm precedes y placed).mem_iff.1 mem) with rfl | before
    · exact memY
    · exact already z before

end Comparison

/-- In rows that were gathered, any two have the same kinds under all keys, and their order is
decided. -/
theorem sameKinds_of_sortRows {keys : List SortKey} {records : List ρ}
    {rows : List (List Value × ρ)} (ok : Selection.sortRows keys access records = .ok rows) :
    ∀ a ∈ rows, ∀ b ∈ rows,
      a.1.map Value.kind = b.1.map Value.kind ∧ ∃ o, compareRows? keys a.1 b.1 = some o := by
  obtain ⟨oneKind, rfl⟩ := sortRows_eq_ok_iff.1 ok
  simp only [List.forall_mem_map]
  intro a memA b memB
  have comparable := oneKind.comparable memA memB
  exact ⟨map_kind_rowOf comparable, _, compareRows?_eq_lexOrder comparable⟩

/-! ## Stages -/

namespace Selection

variable {q : Query} {s : Selection ρ}

/-- `filter`, if no values of two kinds are compared. -/
def filter? (q : Query) (access : Accessor ρ) (s : Selection ρ) : Option (Selection ρ) :=
  if q.filter.isEmpty then some s
  else
    let matcher := q.filter.matcher
    (keep? (fun record => matcher.accepts? (access record)) s.records).map fun records =>
      { records
        events := s.events ++ (matcher.patterns.oversized.map Event.oversizedNeedle ++
          [.filtered s.records.length records.length]) }

/-- `sort`, if no values of two kinds are compared. -/
def sort? (q : Query) (access : Accessor ρ) (s : Selection ρ) : Option (Selection ρ) :=
  if q.sorting.isEmpty || s.records.length < 2 then some s
  else
    match sortRows q.sorting.keys access s.records with
    | .error obstacle => some { s with events := s.events ++ [.leftUnsorted obstacle] }
    | .ok rows =>
      let precedes? (a b : List Value × ρ) : Option Bool :=
        (compareRows? q.sorting.keys a.1 b.1).map (· == .lt)
      (stableSort? precedes? rows).map fun sorted =>
        { records := sorted.map Prod.snd
          events := s.events ++ [.sorted rows.length q.sorting] }

/-- Runs a stage, if no values of two kinds are compared in it. Taking a page compares nothing. -/
def applyOne? (q : Query) (access : Accessor ρ) (s : Selection ρ) : Stage → Option (Selection ρ)
  | .filter => s.filter? q access
  | .sort => s.sort? q access
  | .paginate => some (s.paginate q)
  | .run => ((s.filter? q access).bind (·.sort? q access)).map (·.paginate q)

/-- Runs stages one after the other, as long as no values of two kinds are compared. -/
def applyAll? (q : Query) (access : Accessor ρ) (s : Selection ρ) (stages : List Stage) :
    Option (Selection ρ) :=
  stages.foldlM (fun s stage => s.applyOne? q access stage) s

theorem filter?_eq_some (q : Query) (access : Accessor ρ) (s : Selection ρ) :
    s.filter? q access = some (s.filter q access) := by
  unfold filter? filter
  split
  case isTrue => rfl
  case isFalse => simp only [Matcher.accepts?_eq_some, keep?_eq_some, Option.map_some]

theorem sort?_eq_some (q : Query) (access : Accessor ρ) (s : Selection ρ) :
    s.sort? q access = some (s.sort q access) := by
  unfold sort? sort
  split
  case isTrue => rfl
  case isFalse =>
    cases ok : sortRows q.sorting.keys access s.records with
    | error obstacle => rfl
    | ok rows =>
      have answers : ∀ a ∈ rows, ∀ b ∈ rows,
          (compareRows? q.sorting.keys a.1 b.1).map (· == Ordering.lt) =
            some (compareRows? q.sorting.keys a.1 b.1 == some .lt) := by
        intro a memA b memB
        obtain ⟨-, o, compared⟩ := sameKinds_of_sortRows ok a memA b memB
        rw [compared]
        cases o <;> rfl
      simp only [stableSort?_eq_some answers, Option.map_some]

theorem applyOne?_eq_some (q : Query) (access : Accessor ρ) (s : Selection ρ) (stage : Stage) :
    s.applyOne? q access stage = some (s.apply q access stage) := by
  cases stage with
  | filter => exact filter?_eq_some q access s
  | sort => exact sort?_eq_some q access s
  | paginate => rfl
  | run =>
    rw [applyOne?, filter?_eq_some, Option.bind_some, sort?_eq_some]
    rfl

/-- A key field that a record lacks, or that has values of two kinds, is in the way of sorting. -/
theorem not_oneKind_of_obstacle {keys : List SortKey} {records : List ρ}
    (obstacle : (∃ key ∈ keys, ∃ r ∈ records, access r key.field = none) ∨
      ∃ key ∈ keys, ∃ r ∈ records, ∃ r' ∈ records, ∃ v v', access r key.field = some v ∧
        access r' key.field = some v' ∧ v.kind ≠ v'.kind) :
    ¬ OneKind access keys records := by
  intro oneKind
  rcases obstacle with ⟨key, memKey, r, mem, absent⟩ |
    ⟨key, memKey, r, mem, r', mem', v, v', present, present', twoKinds⟩
  · obtain ⟨_, ofKind⟩ := oneKind key memKey
    obtain ⟨_, present, -⟩ := ofKind r mem
    rw [absent] at present
    cases present
  · obtain ⟨w, w', valueR, valueR', sameKind⟩ := oneKind.comparable mem mem' key memKey
    rw [present] at valueR
    rw [present'] at valueR'
    cases valueR
    cases valueR'
    exact twoKinds sameKind

/-- No run of stages compares values of two kinds: where that is a failure, every run still has its
result. In rows gathered for sorting, any two have the same kinds under all keys, so every pair of them
has an order. If a record lacks a key field, or a key field has values of two kinds, sorting leaves the
records in their order. -/
theorem applyAll?_eq_some (q : Query) (access : Accessor ρ) (s : Selection ρ)
    (stages : List Stage) :
    s.applyAll? q access stages = some (s.applyAll q access stages) ∧
      (∀ records rows, sortRows q.sorting.keys access records = .ok rows →
        ∀ a ∈ rows, ∀ b ∈ rows, a.1.map Value.kind = b.1.map Value.kind ∧
          ∃ o, compareRows? q.sorting.keys a.1 b.1 = some o) ∧
      ∀ t : Selection ρ,
        ((∃ key ∈ q.sorting.keys, ∃ r ∈ t.records, access r key.field = none) ∨
          ∃ key ∈ q.sorting.keys, ∃ r ∈ t.records, ∃ r' ∈ t.records, ∃ v v',
            access r key.field = some v ∧ access r' key.field = some v' ∧ v.kind ≠ v'.kind) →
        (t.sort q access).records = t.records := by
  refine ⟨?_, fun _ _ ok => sameKinds_of_sortRows ok,
    fun _ obstacle => sort_records_of_not_oneKind (not_oneKind_of_obstacle obstacle)⟩
  unfold applyAll? applyAll
  simp only [applyOne?_eq_some]
  exact List.foldlM_pure

/-- The filter asks a number and a text for the text `8` and for an instant. It keeps both records, which
stay in their order although the names would be sorted the other way round: the sizes have two kinds.
Two numbers make rows that have an order. -/
theorem applyAll?_eq_some_of_mixed_sizes :
    let access : Accessor (List (String × Value)) := fun record name => record.lookup name
    let q : Query := {
      filter := ⟨[⟨"size", .instant ⟨8, 0, by decide⟩⟩, ⟨"size", .text "8"⟩]⟩
      sorting := ⟨[⟨"name", .ascending⟩, ⟨"size", .descending⟩]⟩ }
    let mixed := [[("name", .text "b"), ("size", .int 8)], [("name", .text "a"), ("size", .text "80")]]
    let numbers := [[("name", .text "a"), ("size", .int 1)], [("name", .text "A"), ("size", .int 8)]]
    let rows := numbers.map fun r => (rowOf access q.sorting.keys r, r)
    let s := ofRecords mixed
    (s.applyAll? q access [.filter]).map Selection.records = some mixed ∧
      sortRows q.sorting.keys access numbers = .ok rows ∧
      (∀ a ∈ rows, ∀ b ∈ rows, ∃ o, compareRows? q.sorting.keys a.1 b.1 = some o) ∧
      (∃ key ∈ q.sorting.keys, ∃ r ∈ s.records, ∃ r' ∈ s.records, ∃ v v',
        access r key.field = some v ∧ access r' key.field = some v' ∧ v.kind ≠ v'.kind) ∧
      (s.sort q access).records = mixed := by
  intro access q mixed numbers rows s
  obtain ⟨result, ordered, unsorted⟩ := applyAll?_eq_some q access s [.filter]
  have kept : (s.applyAll q access [.filter]).records = mixed := by decide +kernel
  have gathered : sortRows q.sorting.keys access numbers = .ok rows := by with_unfolding_all rfl
  have twoKinds : ∃ key ∈ q.sorting.keys, ∃ r ∈ s.records, ∃ r' ∈ s.records, ∃ v v',
      access r key.field = some v ∧ access r' key.field = some v' ∧ v.kind ≠ v'.kind :=
    ⟨⟨"size", .descending⟩, by decide, mixed[0], List.mem_cons_self, mixed[1], by decide,
      .int 8, .text "80", rfl, rfl, by decide⟩
  refine ⟨?_, gathered, ?_, twoKinds, unsorted s (.inr twoKinds)⟩
  · rw [result, Option.map_some, kept]
  · exact fun a memA b memB => (ordered numbers rows gathered a memA b memB).2

end Selection

end RecordQuery
