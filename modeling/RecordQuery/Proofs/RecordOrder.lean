import Mathlib.Data.List.Find
import RecordQuery.Proofs.Results
import RecordQuery.Proofs.StableSort
import RecordQuery.Proofs.ValueOrder
import RecordQuery.Selection.Basic

/-!
The order of records under sort keys, and what sorting a selection returns.

`SortKey.lexOrder` is the order of records that keys ask for: that of the first key under which they
differ, in the direction of that key. `Sortable` says when keys sort a list of records: each key
field is on every record, with one kind of value, and its timestamps all can be read or all cannot.
The stage compares rows of values gathered beforehand; `compareRows?_eq_lexOrder` ties the two
together, and `Selection.stablySorted_sort_iff` says that the stage returns the one stable sort.

What stands in the way of sorting has nothing to do with timestamps. It is a key that a record lacks,
or else a key with two kinds of values (`sortRows_eq`). The rows can be gathered exactly if each key
field is on every record with one kind of value (`sortRows_eq_ok_iff`), and without them the stage
leaves the records as they are (`Selection.sort_records_of_not_oneKind`).
-/

namespace RecordQuery

open Std

variable {ρ : Type u} {access : Accessor ρ}

/-! ## Lexicographic order -/

namespace SortKey

/-- The order of two records under one key. Records of which one lacks the field count as equal. -/
def order (key : SortKey) (access : Accessor ρ) (a b : ρ) : Ordering :=
  match access a key.field, access b key.field with
  | some v, some w => key.direction.apply (v.order w)
  | _, _ => .eq

/-- The order of two records under the first key that tells them apart. -/
def lexOrder (access : Accessor ρ) : List SortKey → ρ → ρ → Ordering
  | [], _, _ => .eq
  | key :: keys, a, b => (key.order access a b).then (lexOrder access keys a b)

end SortKey

/-- Each key field is on every record, with values of one kind, and its written timestamps all can
be read or all cannot. -/
structure Sortable (access : Accessor ρ) (keys : List SortKey) (records : List ρ) : Prop where
  oneKind : ∀ key ∈ keys, ∃ kind, ∀ r ∈ records, ∃ v, access r key.field = some v ∧ v.kind = kind
  timestamps : ∀ key ∈ keys,
    (∀ r ∈ records, ∀ t, access r key.field = some (.rfc3339 t) →
      (Rfc3339.read? t.toList).isSome) ∨
    (∀ r ∈ records, ∀ t, access r key.field = some (.rfc3339 t) →
      Rfc3339.read? t.toList = none)

theorem Direction.transCmp_apply {α : Type v} {cmp : α → α → Ordering} (preorder : TransCmp cmp)
    (direction : Direction) : TransCmp fun a b => direction.apply (cmp a b) := by
  cases direction with
  | ascending => exact preorder
  | descending =>
    have reversed : (fun a b => (cmp a b).swap) = fun a b => cmp b a := by
      funext a b
      exact OrientedCmp.eq_swap.symm
    have opposite : TransCmp fun a b => cmp b a := inferInstance
    simpa only [Direction.apply, reversed] using opposite

namespace Sortable

variable {key : SortKey} {keys : List SortKey} {records : List ρ}

theorem tail (sortable : Sortable access (key :: keys) records) : Sortable access keys records :=
  ⟨fun key mem => sortable.oneKind key (List.mem_cons_of_mem _ mem),
    fun key mem => sortable.timestamps key (List.mem_cons_of_mem _ mem)⟩

/-- The values of a key field, one for each place in the list. -/
theorem exists_column (sortable : Sortable access keys records) (mem : key ∈ keys) :
    ∃ (kind : Kind) (column : Fin records.length → Value),
      (∀ i, access (records.get i) key.field = some (column i) ∧ (column i).kind = kind) ∧
      Value.Uncrossed (Set.range column) := by
  obtain ⟨kind, oneKind⟩ := sortable.oneKind key mem
  choose column present using fun i : Fin records.length =>
    oneKind (records.get i) (List.get_mem records i)
  refine ⟨kind, column, present, ?_⟩
  rintro x u y ⟨i, atI⟩ ⟨j, atJ⟩ - ⟨-, -, unread, s, -, readX, -, -⟩
  have accessX := (present i).1
  have accessU := (present j).1
  rw [atI] at accessX
  rw [atJ] at accessU
  rcases sortable.timestamps key mem with readable | unreadable
  · have readU := readable _ (List.get_mem records j) u accessU
    rw [unread] at readU
    cases readU
  · have unreadX := unreadable _ (List.get_mem records i) x accessX
    rw [readX] at unreadX
    cases unreadX

/-- The keys order the places of the records as a total preorder. -/
theorem transCmp_lexOrder (sortable : Sortable access keys records) :
    TransCmp fun i j : Fin records.length =>
      SortKey.lexOrder access keys (records.get i) (records.get j) := by
  induction keys with
  | nil =>
    exact { eq_swap := rfl, isLE_trans := fun _ _ => rfl }
  | cons key keys ih =>
    obtain ⟨kind, column, present, uncrossed⟩ := sortable.exists_column List.mem_cons_self
    have columnOrder := Value.transCmp_order (fun i => (present i).2) uncrossed
    have keyOrder : TransCmp fun i j : Fin records.length =>
        key.order access (records.get i) (records.get j) := by
      have applied := Direction.transCmp_apply columnOrder key.direction
      simpa only [SortKey.order, (present _).1] using applied
    have restOrder := ih sortable.tail
    exact inferInstanceAs (TransCmp (compareLex _ _))

end Sortable

/-! ## Rows of values -/

/-- Two records have every key field, with values of one kind under each. -/
def Comparable (access : Accessor ρ) (keys : List SortKey) (a b : ρ) : Prop :=
  ∀ key ∈ keys, ∃ v w, access a key.field = some v ∧ access b key.field = some w ∧ v.kind = w.kind

/-- Each key field is on every record, with values of one kind. -/
def OneKind (access : Accessor ρ) (keys : List SortKey) (records : List ρ) : Prop :=
  ∀ key ∈ keys, ∃ kind, ∀ r ∈ records, ∃ v, access r key.field = some v ∧ v.kind = kind

/-- The values of a record under the key fields that it has. -/
def rowOf (access : Accessor ρ) (keys : List SortKey) (record : ρ) : List Value :=
  keys.filterMap fun key => access record key.field

section Rows

variable {keys : List SortKey} {records : List ρ} {a b : ρ}

theorem OneKind.comparable (oneKind : OneKind access keys records) (memA : a ∈ records)
    (memB : b ∈ records) : Comparable access keys a b := by
  intro key mem
  obtain ⟨kind, ofKind⟩ := oneKind key mem
  obtain ⟨v, accessA, kindV⟩ := ofKind a memA
  obtain ⟨w, accessB, kindW⟩ := ofKind b memB
  exact ⟨v, w, accessA, accessB, kindV.trans kindW.symm⟩

theorem Comparable.tail {key : SortKey} (comparable : Comparable access (key :: keys) a b) :
    Comparable access keys a b :=
  fun key mem => comparable key (List.mem_cons_of_mem _ mem)

theorem rowOf_cons {key : SortKey} {v : Value} (present : access a key.field = some v) :
    rowOf access (key :: keys) a = v :: rowOf access keys a :=
  List.filterMap_cons_some present

theorem map_kind_rowOf (comparable : Comparable access keys a b) :
    (rowOf access keys a).map Value.kind = (rowOf access keys b).map Value.kind := by
  induction keys with
  | nil => rfl
  | cons key keys ih =>
    obtain ⟨v, w, accessA, accessB, sameKind⟩ := comparable key List.mem_cons_self
    rw [rowOf_cons accessA, rowOf_cons accessB, List.map_cons, List.map_cons, sameKind,
      ih comparable.tail]

/-- Comparing the rows of two records that have all key fields is comparing the records. -/
theorem compareRows?_eq_lexOrder (comparable : Comparable access keys a b) :
    compareRows? keys (rowOf access keys a) (rowOf access keys b) =
      some (SortKey.lexOrder access keys a b) := by
  induction keys with
  | nil => rfl
  | cons key keys ih =>
    obtain ⟨v, w, accessA, accessB, sameKind⟩ := comparable key List.mem_cons_self
    have compared : key.compare? v w = some (key.order access a b) := by
      rw [SortKey.compare?, Value.compare?_eq_some_order sameKind, Option.map_some, SortKey.order,
        accessA, accessB]
    rw [rowOf_cons accessA, rowOf_cons accessB, compareRows?, compared, ih comparable.tail,
      SortKey.lexOrder]
    cases key.order access a b <;> rfl

end Rows

/-! ## Obstacles -/

/-- The first key whose field the first of the records lacking one does not have. -/
def lackingKey? (access : Accessor ρ) (keys : List SortKey) (records : List ρ) : Option SortKey :=
  records.findSome? fun record => keys.find? fun key => (access record key.field).isNone

/-- Two records have values of two kinds under a key. -/
def TwoKinds (access : Accessor ρ) (records : List ρ) (key : SortKey) : Prop :=
  ∃ a ∈ records, ∃ b ∈ records,
    (access a key.field).map Value.kind ≠ (access b key.field).map Value.kind

instance (access : Accessor ρ) (records : List ρ) (key : SortKey) :
    Decidable (TwoKinds access records key) :=
  inferInstanceAs (Decidable (∃ a ∈ records, ∃ b ∈ records, _ ≠ _))

/-- What keys find in the way of sorting records: the first key that a record lacks, or else the first key
with two kinds. -/
def sortObstacle? (access : Accessor ρ) (keys : List SortKey) (records : List ρ) :
    Option SortObstacle :=
  match lackingKey? access keys records with
  | some key => some (.absent key.field)
  | none => (keys.find? fun key => TwoKinds access records key).map fun key => .mixedKinds key.field

section Obstacles

variable {keys : List SortKey} {records : List ρ}

theorem sortRow_eq (keys : List SortKey) (access : Accessor ρ) (record : ρ) :
    sortRow keys (access record) =
      match keys.find? fun key => (access record key.field).isNone with
      | some key => .error key.field
      | none => .ok (rowOf access keys record) := by
  induction keys with
  | nil => rfl
  | cons key keys ih =>
    unfold sortRow at ih ⊢
    rw [List.mapM_cons, List.find?_cons, ih]
    cases present : access record key.field with
    | none => rfl
    | some v =>
      rw [rowOf_cons present]
      cases keys.find? fun key => (access record key.field).isNone <;> rfl

theorem lackingKey?_cons (access : Accessor ρ) (keys : List SortKey) (record : ρ) (records : List ρ) :
    lackingKey? access keys (record :: records) =
      (keys.find? fun key => (access record key.field).isNone).or (lackingKey? access keys records) := by
  unfold lackingKey?
  rw [List.findSome?_cons]
  cases keys.find? fun key => (access record key.field).isNone <;> rfl

theorem mapM_sortRow_eq (keys : List SortKey) (access : Accessor ρ) (records : List ρ) :
    (records.mapM fun record => (sortRow keys (access record)).map (·, record)) =
      match lackingKey? access keys records with
      | some key => .error key.field
      | none => .ok (records.map fun record => (rowOf access keys record, record)) := by
  induction records with
  | nil => rfl
  | cons record records ih =>
    rw [List.mapM_cons, ih, sortRow_eq, lackingKey?_cons]
    cases keys.find? fun key => (access record key.field).isNone with
    | some key => rfl
    | none => cases lackingKey? access keys records <;> rfl

theorem lackingKey?_eq_none_iff :
    lackingKey? access keys records = none ↔
      ∀ record ∈ records, ∀ key ∈ keys, (access record key.field).isSome = true := by
  simp only [lackingKey?, List.findSome?_eq_none_iff, List.find?_eq_none, Option.isNone_iff_eq_none,
    ← Option.isSome_iff_ne_none]

/-- The row of a record with every key field has the value under each key, at the place of the key. -/
theorem getElem?_rowOf {record : ρ} (complete : ∀ key ∈ keys, (access record key.field).isSome = true)
    {key : SortKey} {i : Nat} (place : keys[i]? = some key) :
    (rowOf access keys record)[i]? = access record key.field := by
  induction keys generalizing i with
  | nil => cases place
  | cons first keys ih =>
    obtain ⟨v, present⟩ := Option.isSome_iff_exists.1 (complete first List.mem_cons_self)
    rw [rowOf_cons present]
    cases i with
    | zero =>
      obtain rfl := Option.some.inj place
      exact present.symm
    | succ i => exact ih (fun key mem => complete key (List.mem_cons_of_mem _ mem)) place

/-- Of two kinds, one is not that of the first record. -/
theorem twoKinds_cons_iff {first : ρ} {key : SortKey} :
    TwoKinds access (first :: records) key ↔
      ∃ record ∈ records,
        (access record key.field).map Value.kind ≠ (access first key.field).map Value.kind := by
  constructor
  · rintro ⟨a, memA, b, memB, differs⟩
    by_contra sameKind
    push Not at sameKind
    have asFirst : ∀ record ∈ first :: records,
        (access record key.field).map Value.kind = (access first key.field).map Value.kind :=
      List.forall_mem_cons.2 ⟨rfl, sameKind⟩
    exact differs ((asFirst a memA).trans (asFirst b memB).symm)
  · rintro ⟨record, mem, differs⟩
    exact ⟨record, List.mem_cons_of_mem first mem, first, List.mem_cons_self, differs⟩

/-- The key that stands out in the rows is the first one with two kinds. -/
theorem mixedKey?_eq_find? (complete : lackingKey? access keys records = none) :
    mixedKey? keys (records.map (rowOf access keys)) =
      keys.find? fun key => TwoKinds access records key := by
  cases records with
  | nil =>
    have noTwo : (keys.find? fun key => TwoKinds access ([] : List ρ) key) = none :=
      List.find?_eq_none.2 (by simp [TwoKinds])
    exact noTwo.symm
  | cons first records =>
    have mixed {key : SortKey} {i : Nat} (place : keys[i]? = some key) :
        ((records.map (rowOf access keys)).any fun row =>
          kindAt row i != kindAt (rowOf access keys first) i) =
        decide (TwoKinds access (first :: records) key) := by
      have kinds {record : ρ} (mem : record ∈ first :: records) :
          kindAt (rowOf access keys record) i = (access record key.field).map Value.kind := by
        rw [kindAt, getElem?_rowOf (lackingKey?_eq_none_iff.1 complete record mem) place]
      rw [Bool.eq_iff_iff, decide_eq_true_eq, twoKinds_cons_iff, List.any_map, List.any_eq_true]
      refine exists_congr fun record => and_congr_right fun mem => ?_
      rw [Function.comp_apply, bne_iff_ne, kinds (List.mem_cons_of_mem first mem),
        kinds List.mem_cons_self]
    -- The keys on the right get their places, too.
    rw [List.map_cons, mixedKey?]
    conv =>
      rhs
      rw [← List.zipIdx_map_fst 0 keys, List.find?_map]
    refine congrArg _ (List.find?_congr ?_)
    rintro ⟨key, i⟩ mem
    exact mixed (List.mem_zipIdx_iff_getElem?.1 mem)

/-- Rows are gathered unless something is in the way. -/
theorem sortRows_eq (keys : List SortKey) (access : Accessor ρ) (records : List ρ) :
    Selection.sortRows keys access records =
      match sortObstacle? access keys records with
      | some obstacle => .error obstacle
      | none => .ok (records.map fun record => (rowOf access keys record, record)) := by
  unfold Selection.sortRows sortObstacle?
  rw [mapM_sortRow_eq]
  cases complete : lackingKey? access keys records with
  | some key => rfl
  | none =>
    dsimp only
    have rows : (records.map fun record => (rowOf access keys record, record)).map Prod.fst =
        records.map (rowOf access keys) := by
      rw [List.map_map]
      rfl
    rw [rows, mixedKey?_eq_find? complete]
    cases keys.find? fun key => TwoKinds access records key <;> rfl

/-- A record that lacks the second key comes before two kinds under the first one. -/
example :
    let access : Accessor (List (String × Value)) := fun record field => record.lookup field
    Selection.sortRows [{ field := "port" }, { field := "name" }] access
      [[("port", .int 1), ("name", .text "a")], [("port", .text "b")]] = .error (.absent "name") :=
  rfl

/-- Nothing is in the way exactly if each key field is on every record with one kind of value. -/
theorem sortObstacle?_eq_none_iff :
    sortObstacle? access keys records = none ↔ OneKind access keys records := by
  have noObstacle : sortObstacle? access keys records = none ↔
      lackingKey? access keys records = none ∧ ∀ key ∈ keys, ¬ TwoKinds access records key := by
    unfold sortObstacle?
    cases lackingKey? access keys records with
    | some key => simp
    | none => simp
  rw [noObstacle, lackingKey?_eq_none_iff]
  constructor
  · rintro ⟨complete, single⟩ key memKey
    cases records with
    | nil => exact ⟨.int, fun record mem => absurd mem List.not_mem_nil⟩
    | cons first records =>
      obtain ⟨v, present⟩ :=
        Option.isSome_iff_exists.1 (complete first List.mem_cons_self key memKey)
      refine ⟨v.kind, fun record mem => ?_⟩
      obtain ⟨w, presentW⟩ := Option.isSome_iff_exists.1 (complete record mem key memKey)
      refine ⟨w, presentW, ?_⟩
      by_contra differs
      refine single key memKey ⟨record, mem, first, List.mem_cons_self, fun same => differs ?_⟩
      rw [present, presentW] at same
      exact Option.some.inj same
  · intro oneKind
    constructor
    · intro record mem key memKey
      obtain ⟨_, ofKind⟩ := oneKind key memKey
      obtain ⟨v, present, -⟩ := ofKind record mem
      exact Option.isSome_of_eq_some present
    · rintro key memKey ⟨a, memA, b, memB, differs⟩
      obtain ⟨v, w, presentA, presentB, sameKind⟩ := oneKind.comparable memA memB key memKey
      rw [presentA, presentB] at differs
      exact differs (congrArg some sameKind)

/-- The rows can be gathered exactly if each key field is on every record with one kind of value. -/
theorem sortRows_eq_ok_iff {rows : List (List Value × ρ)} :
    Selection.sortRows keys access records = .ok rows ↔
      OneKind access keys records ∧ rows = records.map fun r => (rowOf access keys r, r) := by
  rw [sortRows_eq, ← sortObstacle?_eq_none_iff]
  cases sortObstacle? access keys records with
  | some obstacle => simp
  | none => simp [eq_comm]

theorem map_snd_of_sortRows {rows : List (List Value × ρ)}
    (ok : Selection.sortRows keys access records = .ok rows) : rows.map Prod.snd = records := by
  obtain ⟨-, rfl⟩ := sortRows_eq_ok_iff.1 ok
  rw [List.map_map]
  exact List.map_id records

end Obstacles

/-! ## The sort stage -/

namespace Selection

variable {q : Query} {s : Selection ρ}

/-- The sort stage rearranges the records. -/
theorem sort_records_perm (q : Query) (access : Accessor ρ) (s : Selection ρ) :
    (s.sort q access).records.Perm s.records := by
  unfold Selection.sort
  split
  case isTrue => exact .refl _
  case isFalse =>
    split
    case h_1 => exact .refl _
    case h_2 rows ok =>
      have sorted := (stableSort_perm
        (fun a b => compareRows? q.sorting.keys a.1 b.1 == some .lt) rows).map Prod.snd
      rw [map_snd_of_sortRows ok] at sorted
      exact sorted

/-- Records that have each key field with one kind of value are sorted. -/
theorem sort_records_of_oneKind (oneKind : OneKind access q.sorting.keys s.records) :
    (s.sort q access).records =
      stableSort (fun a b => SortKey.lexOrder access q.sorting.keys a b == .lt) s.records := by
  unfold Selection.sort
  split
  case isTrue nothingToSort =>
    symm
    rcases Bool.or_eq_true_iff.1 nothingToSort with noKeys | short
    · rw [List.isEmpty_iff.1 noKeys]
      exact stableSort_of_never fun _ _ _ _ => rfl
    · exact stableSort_of_length_lt_two _ (of_decide_eq_true short)
  case isFalse =>
    rw [sortRows_eq_ok_iff.2 ⟨oneKind, rfl⟩]
    simp only [stableSort_map, List.map_map, Function.comp_def, List.map_id']
    refine stableSort_congr fun a memA b memB => ?_
    rw [compareRows?_eq_lexOrder (oneKind.comparable memA memB)]
    rfl

/-- All other records stay as they are. -/
theorem sort_records_of_not_oneKind (mixed : ¬ OneKind access q.sorting.keys s.records) :
    (s.sort q access).records = s.records := by
  unfold Selection.sort
  split
  case isTrue => rfl
  case isFalse =>
    split
    case h_1 => rfl
    case h_2 rows ok => exact absurd (sortRows_eq_ok_iff.1 ok).1 mixed

theorem sort_records_eq (sortable : Sortable access q.sorting.keys s.records) :
    (s.sort q access).records =
      stableSort (fun a b => SortKey.lexOrder access q.sorting.keys a b == .lt) s.records :=
  sort_records_of_oneKind sortable.oneKind

/-- Of a list that keys sort, the stage returns the stable sort: the records at all places, none of
them greater than a later one under the keys, and equal ones in the order of their places. -/
theorem stablySorted_sort_iff (sortable : Sortable access q.sorting.keys s.records)
    (out : List ρ) :
    StablySorted (SortKey.lexOrder access q.sorting.keys) s.records out ↔
      out = (s.sort q access).records := by
  rw [sort_records_eq sortable]
  exact stablySorted_iff sortable.transCmp_lexOrder

/-- By name from the last to the first, then by time: the two names `beta` are equal in order, and
so are their times, which keeps them as they are; the other two are in the order of their times. -/
theorem stablySorted_sort_by_name_and_time :
    let access : Accessor (String × String) := fun r field =>
      if field = "name" then some (.text r.1)
      else if field = "time" then some (.rfc3339 r.2) else none
    let keys : List SortKey := [⟨"name", .descending⟩, ⟨"time", .ascending⟩]
    let records := [("beta", "2024-01-01T10:00:00+02:00"), ("Alpha", "2024-01-01T09:00:00Z"),
      ("BETA", "2024-01-01T08:00:00Z"), ("alpha", "2024-01-01T08:30:00.5Z")]
    Sortable access keys records ∧
      StablySorted (SortKey.lexOrder access keys) records
        [("beta", "2024-01-01T10:00:00+02:00"), ("BETA", "2024-01-01T08:00:00Z"),
          ("alpha", "2024-01-01T08:30:00.5Z"), ("Alpha", "2024-01-01T09:00:00Z")] := by
  intro access keys records
  have names (r : String × String) : access r "name" = some (.text r.1) := rfl
  have times (r : String × String) : access r "time" = some (.rfc3339 r.2) := rfl
  have sortable : Sortable access keys records := by
    refine ⟨List.forall_mem_cons.2 ⟨?_, List.forall_mem_singleton.2 ?_⟩,
      List.forall_mem_cons.2 ⟨?_, List.forall_mem_singleton.2 ?_⟩⟩
    · exact ⟨.text, fun r _ => ⟨_, names r, rfl⟩⟩
    · exact ⟨.rfc3339, fun r _ => ⟨_, times r, rfl⟩⟩
    · refine .inl fun r _ t isTime => ?_
      rw [names] at isTime
      cases isTime
    · refine .inl fun r mem t isTime => ?_
      rw [times] at isTime
      cases isTime
      revert r
      decide +kernel
  refine ⟨sortable, ?_⟩
  exact (stablySorted_sort_iff (q := { sorting := ⟨keys⟩ }) (s := .ofRecords records) sortable _).2
    (by decide +kernel)

end Selection

end RecordQuery
