import RecordQuery.Value
import Mathlib.Data.Set.Basic

/-!
The order of values of one kind. Any two values of a kind are ordered one way round or the other,
and values that are equal in order to a third one are equal in order to each other. Numbers, texts
and instants are also ordered transitively.

Written timestamps are not: two that can be read are ordered by their seconds, any other two by
their characters. `Rfc3339.Crossing` says when the two orders meet in three timestamps, and
`Value.compare?_preorder_iff_uncrossed` that the order of a set of values is transitive exactly if no
three of them cross.
-/

namespace RecordQuery

open Std

/-- A timestamp that cannot be read stands, by its characters, behind `x` and before `y`, and `y` is
not later than `x`. -/
def Rfc3339.Crossing (x unread y : String) : Prop :=
  x < unread ∧ unread < y ∧ Rfc3339.read? unread.toList = none ∧
    ∃ s t, Rfc3339.read? x.toList = some s ∧ Rfc3339.read? y.toList = some t ∧
      t.seconds ≤ s.seconds

namespace Value

/-! ## Written timestamps -/

theorem compare_string_eq_lt {a b : String} : compare a b = .lt ↔ a < b :=
  compareOfLessAndEq_eq_lt

theorem compare_string_eq_gt {a b : String} : compare a b = .gt ↔ b < a := by
  rw [OrientedCmp.gt_iff_lt, compare_string_eq_lt]

section Timestamps

variable {a b c : String} {s t : Instant}

theorem compareTimestamp_of_read (left : Rfc3339.read? a.toList = some s)
    (right : Rfc3339.read? b.toList = some t) :
    compareTimestamp a b = compare s.seconds t.seconds := by
  simp only [compareTimestamp, left, right]

theorem compareTimestamp_of_unread
    (unread : Rfc3339.read? a.toList = none ∨ Rfc3339.read? b.toList = none) :
    compareTimestamp a b = compare a b := by
  unfold compareTimestamp
  rcases unread with left | right
  · rw [left]
  · rw [right]
    cases Rfc3339.read? a.toList <;> rfl

theorem compareTimestamp_swap (a b : String) :
    compareTimestamp b a = (compareTimestamp a b).swap := by
  cases left : Rfc3339.read? a.toList with
  | none =>
    rw [compareTimestamp_of_unread (.inl left), compareTimestamp_of_unread (.inr left)]
    exact OrientedCmp.eq_swap
  | some s =>
    cases right : Rfc3339.read? b.toList with
    | none =>
      rw [compareTimestamp_of_unread (.inr right), compareTimestamp_of_unread (.inl right)]
      exact OrientedCmp.eq_swap
    | some t =>
      rw [compareTimestamp_of_read left right, compareTimestamp_of_read right left]
      exact OrientedCmp.eq_swap

/-- Timestamps that are equal in order are the same text or name the same second. -/
theorem compareTimestamp_eq_eq_iff :
    compareTimestamp a b = .eq ↔
      a = b ∨ ∃ s t, Rfc3339.read? a.toList = some s ∧ Rfc3339.read? b.toList = some t ∧
        s.seconds = t.seconds := by
  cases left : Rfc3339.read? a.toList with
  | none => simp [compareTimestamp_of_unread (.inl left)]
  | some s =>
    cases right : Rfc3339.read? b.toList with
    | none => simp [compareTimestamp_of_unread (.inr right)]
    | some t =>
      rw [compareTimestamp_of_read left right, LawfulEqCmp.compare_eq_iff_eq]
      constructor
      · intro sameSecond
        exact .inr ⟨s, t, rfl, rfl, sameSecond⟩
      · rintro (rfl | ⟨_, _, ⟨⟩, ⟨⟩, sameSecond⟩)
        · rw [Option.some.inj (left.symm.trans right)]
        · exact sameSecond

theorem compareTimestamp_eq_trans (left : compareTimestamp a b = .eq)
    (right : compareTimestamp b c = .eq) : compareTimestamp a c = .eq := by
  rcases compareTimestamp_eq_eq_iff.1 left with rfl | ⟨s, t, readA, readB, sameAB⟩
  · exact right
  · rcases compareTimestamp_eq_eq_iff.1 right with rfl | ⟨t', u, readB', readC, sameBC⟩
    · exact left
    · obtain rfl := Option.some.inj (readB.symm.trans readB')
      exact compareTimestamp_eq_eq_iff.2 (.inr ⟨s, u, readA, readC, sameAB.trans sameBC⟩)

/-- A timestamp that can be read is another text than one that cannot. -/
theorem lt_of_isLE_of_read_ne (notAfter : (compare a b).isLE)
    (readDiffers : Rfc3339.read? a.toList ≠ Rfc3339.read? b.toList) : a < b := by
  rw [← compare_string_eq_lt]
  cases order : compare a b with
  | lt => rfl
  | eq => exact absurd (by rw [LawfulEqCmp.compare_eq_iff_eq.1 order]) readDiffers
  | gt => rw [order] at notAfter; cases notAfter

/-- Where the order of timestamps is not transitive, two of the three can be read, and the third one
makes a crossing with them. -/
theorem compareTimestamp_isLE_trans_or_crossing (left : (compareTimestamp a b).isLE)
    (right : (compareTimestamp b c).isLE) :
    (compareTimestamp a c).isLE ∨
      Rfc3339.Crossing b c a ∨ Rfc3339.Crossing c a b ∨ Rfc3339.Crossing a b c := by
  by_cases after : compareTimestamp a c = .gt
  case neg => exact .inl (Ordering.isLE_iff_ne_gt.2 after)
  right
  -- With two unread timestamps all comparisons are by characters, with none all are by seconds.
  -- With one, it lies between the others by characters, and those are the other way round by
  -- seconds.
  cases readA : Rfc3339.read? a.toList with
  | none =>
    rw [compareTimestamp_of_unread (.inl readA)] at left after
    cases readB : Rfc3339.read? b.toList with
    | none =>
      rw [compareTimestamp_of_unread (.inl readB)] at right
      exact absurd after (Ordering.isLE_iff_ne_gt.1 (TransCmp.isLE_trans left right))
    | some t =>
      cases readC : Rfc3339.read? c.toList with
      | none =>
        rw [compareTimestamp_of_unread (.inr readC)] at right
        exact absurd after (Ordering.isLE_iff_ne_gt.1 (TransCmp.isLE_trans left right))
      | some u =>
        rw [compareTimestamp_of_read readB readC, isLE_compare] at right
        have before : a < b := lt_of_isLE_of_read_ne left (by simp [readA, readB])
        exact .inr (.inl ⟨compare_string_eq_gt.1 after, before, readA, u, t, readC, readB, right⟩)
  | some s =>
    cases readB : Rfc3339.read? b.toList with
    | none =>
      rw [compareTimestamp_of_unread (.inr readB)] at left
      rw [compareTimestamp_of_unread (.inl readB)] at right
      cases readC : Rfc3339.read? c.toList with
      | none =>
        rw [compareTimestamp_of_unread (.inr readC)] at after
        exact absurd after (Ordering.isLE_iff_ne_gt.1 (TransCmp.isLE_trans left right))
      | some u =>
        rw [compareTimestamp_of_read readA readC, compare_eq_gt] at after
        have beforeB : a < b := lt_of_isLE_of_read_ne left (by simp [readA, readB])
        have beforeC : b < c := lt_of_isLE_of_read_ne right (by simp [readB, readC])
        exact .inr (.inr ⟨beforeB, beforeC, readB, s, u, readA, readC, after.le⟩)
    | some t =>
      rw [compareTimestamp_of_read readA readB, isLE_compare] at left
      cases readC : Rfc3339.read? c.toList with
      | none =>
        rw [compareTimestamp_of_unread (.inr readC)] at right after
        have before : b < c := lt_of_isLE_of_read_ne right (by simp [readB, readC])
        exact .inl ⟨before, compare_string_eq_gt.1 after, readC, t, s, readB, readA, left⟩
      | some u =>
        rw [compareTimestamp_of_read readB readC, isLE_compare] at right
        rw [compareTimestamp_of_read readA readC, compare_eq_gt] at after
        exact absurd after (Int.not_lt.2 (left.trans right))

/-- Where timestamps cross, `y` is not after `x` and `x` is before the unread one, but `y` is after
that. -/
theorem compareTimestamp_of_crossing (crossing : Rfc3339.Crossing a b c) :
    (compareTimestamp c a).isLE ∧ (compareTimestamp a b).isLE ∧ compareTimestamp c b = .gt := by
  obtain ⟨beforeB, beforeC, readB, s, t, readA, readC, notLater⟩ := crossing
  rw [compareTimestamp_of_read readC readA, compareTimestamp_of_unread (.inr readB),
    compareTimestamp_of_unread (.inr readB), compare_string_eq_lt.2 beforeB,
    compare_string_eq_gt.2 beforeC, isLE_compare]
  exact ⟨notLater, rfl, rfl⟩

end Timestamps

/-! ## Values of one kind -/

instance : TransCmp compareText :=
  inferInstanceAs (TransCmp (compareOn fun s : String => Text.fold s.toList))

/-- The order of two values of one kind; values of different kinds count as equal. -/
def order (a b : Value) : Ordering := (a.compare? b).getD .eq

@[simp]
theorem order_int (m n : Int64) : (Value.int m).order (.int n) = compare m.toInt n.toInt := rfl

@[simp]
theorem order_text (s t : String) : (Value.text s).order (.text t) = compareText s t := rfl

@[simp]
theorem order_rfc3339 (s t : String) :
    (Value.rfc3339 s).order (.rfc3339 t) = compareTimestamp s t := rfl

@[simp]
theorem order_instant (s t : Instant) :
    (Value.instant s).order (.instant t) = compare s.seconds t.seconds := rfl

/-- No timestamps of a set cross. -/
def Uncrossed (S : Set Value) : Prop :=
  ∀ x u y : String, .rfc3339 x ∈ S → .rfc3339 u ∈ S → .rfc3339 y ∈ S → ¬ Rfc3339.Crossing x u y

section OneKind

variable {a b c : Value}

/-- Three values of one kind are three numbers, three texts, three timestamps or three instants. -/
@[elab_as_elim]
theorem oneKind_cases
    {motive : (a b c : Value) → a.kind = b.kind → b.kind = c.kind → Prop}
    (int : ∀ l m n, motive (.int l) (.int m) (.int n) rfl rfl)
    (text : ∀ r s t, motive (.text r) (.text s) (.text t) rfl rfl)
    (rfc3339 : ∀ r s t, motive (.rfc3339 r) (.rfc3339 s) (.rfc3339 t) rfl rfl)
    (instant : ∀ r s t, motive (.instant r) (.instant s) (.instant t) rfl rfl)
    (a b c : Value) (left : a.kind = b.kind) (right : b.kind = c.kind) :
    motive a b c left right := by
  cases a <;> cases b <;> (try cases left) <;> cases c <;> (try cases right)
  case int => exact int _ _ _
  case text => exact text _ _ _
  case rfc3339 => exact rfc3339 _ _ _
  case instant => exact instant _ _ _

theorem kind_eq_of_compare? {o : Ordering} (compared : a.compare? b = some o) :
    a.kind = b.kind := by
  cases a <;> cases b <;> first | rfl | cases compared

/-- Two values of one kind have an order, and the other way round it is the reverse. -/
theorem exists_compare? (sameKind : a.kind = b.kind) :
    ∃ o, a.compare? b = some o ∧ b.compare? a = some o.swap := by
  cases a <;> cases b <;> (try cases sameKind)
  case int m n => exact ⟨_, rfl, congrArg some OrientedCmp.eq_swap⟩
  case text s t => exact ⟨_, rfl, congrArg some OrientedCmp.eq_swap⟩
  case rfc3339 s t => exact ⟨_, rfl, congrArg some (compareTimestamp_swap s t)⟩
  case instant s t => exact ⟨_, rfl, congrArg some OrientedCmp.eq_swap⟩

theorem compare?_eq_some_order (sameKind : a.kind = b.kind) : a.compare? b = some (a.order b) := by
  obtain ⟨o, forward, -⟩ := exists_compare? sameKind
  rw [order, forward, Option.getD_some]

/-- Equality in order is transitive, for timestamps as well. -/
theorem compare?_eq_trans (left : a.compare? b = some .eq) (right : b.compare? c = some .eq) :
    a.compare? c = some .eq := by
  have sameKind := kind_eq_of_compare? left
  have sameKind' := kind_eq_of_compare? right
  induction a, b, c, sameKind, sameKind' using oneKind_cases with
  | int l m n =>
    exact congrArg some (TransCmp.eq_trans (Option.some.inj left) (Option.some.inj right))
  | text r s t =>
    exact congrArg some (TransCmp.eq_trans (Option.some.inj left) (Option.some.inj right))
  | rfc3339 r s t =>
    exact congrArg some (compareTimestamp_eq_trans (Option.some.inj left) (Option.some.inj right))
  | instant r s t =>
    exact congrArg some (TransCmp.eq_trans (Option.some.inj left) (Option.some.inj right))

theorem order_swap (sameKind : a.kind = b.kind) : b.order a = (a.order b).swap := by
  obtain ⟨o, forward, backward⟩ := exists_compare? sameKind
  rw [order, order, forward, backward, Option.getD_some, Option.getD_some]

/-- Among values of one kind of which no timestamps cross, the order is transitive. -/
theorem order_isLE_trans {S : Set Value} (uncrossed : Uncrossed S) (memA : a ∈ S) (memB : b ∈ S)
    (memC : c ∈ S) (sameKind : a.kind = b.kind) (sameKind' : b.kind = c.kind)
    (left : (a.order b).isLE) (right : (b.order c).isLE) : (a.order c).isLE := by
  induction a, b, c, sameKind, sameKind' using oneKind_cases with
  | int l m n =>
    rw [order_int] at *
    exact TransCmp.isLE_trans left right
  | text r s t =>
    rw [order_text] at *
    exact TransCmp.isLE_trans left right
  | instant r s t =>
    rw [order_instant] at *
    exact TransCmp.isLE_trans left right
  | rfc3339 r s t =>
    rcases compareTimestamp_isLE_trans_or_crossing left right with
      ordered | crossing | crossing | crossing
    · exact ordered
    · exact absurd crossing (uncrossed s t r memB memC memA)
    · exact absurd crossing (uncrossed t r s memC memA memB)
    · exact absurd crossing (uncrossed r s t memA memB memC)

/-- A column of values of one kind, in which no timestamps cross, is in order. -/
theorem transCmp_order {ι : Type u} {column : ι → Value} {kind : Kind}
    (ofKind : ∀ i, (column i).kind = kind) (uncrossed : Uncrossed (Set.range column)) :
    TransCmp fun i j => (column i).order (column j) where
  eq_swap {i j} := order_swap ((ofKind j).trans (ofKind i).symm)
  isLE_trans {i j k} left right :=
    order_isLE_trans uncrossed ⟨i, rfl⟩ ⟨j, rfl⟩ ⟨k, rfl⟩ ((ofKind i).trans (ofKind j).symm)
      ((ofKind j).trans (ofKind k).symm) left right

end OneKind

/-! ## When the order is transitive -/

/-- Values of one kind all have an order, which the other way round is the reverse, and equality in
order is transitive. The order as a whole is transitive exactly if no timestamps cross. -/
theorem compare?_preorder_iff_uncrossed {S : Set Value} {kind : Kind}
    (ofKind : ∀ v ∈ S, v.kind = kind) :
    (∀ a ∈ S, ∀ b ∈ S, ∃ o, a.compare? b = some o ∧ b.compare? a = some o.swap) ∧
      (∀ a ∈ S, ∀ b ∈ S, ∀ c ∈ S, a.compare? b = some .eq → b.compare? c = some .eq →
        a.compare? c = some .eq) ∧
      ((∀ a ∈ S, ∀ b ∈ S, ∀ c ∈ S, a.compare? b ≠ some .gt → b.compare? c ≠ some .gt →
        a.compare? c ≠ some .gt) ↔ Uncrossed S) := by
  have sameKind : ∀ {a b}, a ∈ S → b ∈ S → a.kind = b.kind :=
    fun memA memB => (ofKind _ memA).trans (ofKind _ memB).symm
  have notGreater : ∀ {a b}, a ∈ S → b ∈ S → (a.compare? b ≠ some .gt ↔ (a.order b).isLE) := by
    intro a b memA memB
    rw [compare?_eq_some_order (sameKind memA memB), Ordering.isLE_iff_ne_gt, ne_eq,
      Option.some.injEq]
  refine ⟨fun a memA b memB => exists_compare? (sameKind memA memB),
    fun a _ b _ c _ => compare?_eq_trans, ?_, ?_⟩
  · intro trans x u y memX memU memY crossing
    obtain ⟨notAfter, before, after⟩ := compareTimestamp_of_crossing crossing
    have left := (notGreater memY memX).2 notAfter
    have right := (notGreater memX memU).2 before
    exact trans _ memY _ memX _ memU left right (congrArg some after)
  · intro uncrossed a memA b memB c memC left right
    rw [notGreater memA memB] at left
    rw [notGreater memB memC] at right
    rw [notGreater memA memC]
    exact order_isLE_trans uncrossed memA memB memC (sameKind memA memB) (sameKind memB memC)
      left right

/-- Timestamps in several time zones are in order if all of them can be read, although the first one
is the last one by its characters. -/
theorem compare?_preorder_of_zones :
    let S : Set Value := {.rfc3339 "2024-01-01T10:00:00+02:00", .rfc3339 "2024-01-01T08:30:00Z",
      .rfc3339 "2024-01-01T09:00:00Z"}
    (∀ v ∈ S, v.kind = .rfc3339) ∧
      ∀ a ∈ S, ∀ b ∈ S, ∀ c ∈ S, a.compare? b ≠ some .gt → b.compare? c ≠ some .gt →
        a.compare? c ≠ some .gt := by
  intro S
  have ofKind : ∀ v ∈ S, v.kind = .rfc3339 := by
    rintro v (rfl | rfl | rfl) <;> rfl
  have uncrossed : Uncrossed S := by
    rintro x u y - (unread | unread | unread) - ⟨-, -, none, -⟩ <;>
      · cases unread
        revert none
        decide +kernel
  exact ⟨ofKind, (compare?_preorder_iff_uncrossed ofKind).2.2.2 uncrossed⟩

/-- Eight o'clock comes before nine, and nine before a text that cannot be read, by its characters;
but the first one, which is written as ten o'clock two hours ahead, comes after that text. -/
theorem not_compare?_trans :
    ¬ ∀ a b c : Value, a.kind = b.kind → b.kind = c.kind → a.compare? b ≠ some .gt →
      b.compare? c ≠ some .gt → a.compare? c ≠ some .gt := by
  intro trans
  have ordered := trans (.rfc3339 "2024-01-01T10:00:00+02:00") (.rfc3339 "2024-01-01T09:00:00Z")
    (.rfc3339 "2024-01-01T09:30") rfl rfl
  revert ordered
  decide +kernel

end Value

end RecordQuery
