import RecordQuery.Selection.StableSort
import Mathlib.Data.List.FinRange

/-!
What `stableSort` returns. It rearranges a list (`stableSort_perm`); if the comparison is a total
preorder, no element comes before a smaller one, and equal elements stay in their order
(`stableSort_pairwise`); and no other list has these properties (`eq_stableSort`).

`StablySorted` says the same of the places in a list, so that a record which occurs twice is told
apart from itself. As the order of places is the only one, elements may be left out before sorting or
afterwards (`filter_stableSort`).
-/

namespace RecordQuery

open Std

section Settle

variable {α : Type u} {β : Type v} (precedes : α → α → Bool)

theorem settle_perm (x : α) (placed : List α) : (settle precedes x placed).Perm (x :: placed) := by
  induction placed with
  | nil => exact .refl _
  | cons y placed ih =>
    unfold settle
    split
    · exact (ih.cons y).trans (.swap x y placed)
    · exact .refl _

theorem foldl_settle_perm (xs placed : List α) :
    (xs.foldl (fun placed x => settle precedes x placed) placed).Perm (xs ++ placed) := by
  induction xs generalizing placed with
  | nil => exact .refl _
  | cons x xs ih =>
    rw [List.foldl_cons]
    have settled := (settle_perm precedes x placed).append_left xs
    exact (ih _).trans (settled.trans List.perm_middle)

/-- Sorting loses no element and repeats none. -/
theorem stableSort_perm (xs : List α) : (stableSort precedes xs).Perm xs := by
  have settled := foldl_settle_perm precedes xs []
  rw [List.append_nil] at settled
  exact (List.reverse_perm _).trans settled

theorem settle_map (f : β → α) (x : β) (placed : List β) :
    settle precedes (f x) (placed.map f) =
      (settle (fun a b => precedes (f a) (f b)) x placed).map f := by
  induction placed with
  | nil => rfl
  | cons y placed ih =>
    simp only [List.map_cons, settle]
    split
    · rw [ih, List.map_cons]
    · rfl

/-- Sorting looks at elements only through their comparison. -/
theorem stableSort_map (f : β → α) (xs : List β) :
    stableSort precedes (xs.map f) =
      (stableSort (fun a b => precedes (f a) (f b)) xs).map f := by
  have settled (placed : List β) :
      (xs.map f).foldl (fun placed x => settle precedes x placed) (placed.map f) =
        (xs.foldl (fun placed x => settle (fun a b => precedes (f a) (f b)) x placed)
          placed).map f := by
    induction xs generalizing placed with
    | nil => rfl
    | cons x xs ih =>
      rw [List.map_cons, List.foldl_cons, List.foldl_cons, settle_map]
      exact ih _
  rw [stableSort, stableSort, List.map_reverse]
  exact congrArg List.reverse (settled [])

end Settle

/-- Only comparisons between elements of the list count. -/
theorem stableSort_congr {α : Type u} {precedes precedes' : α → α → Bool} {xs : List α}
    (same : ∀ a ∈ xs, ∀ b ∈ xs, precedes a b = precedes' a b) :
    stableSort precedes xs = stableSort precedes' xs := by
  rw [← List.map_get_finRange xs, stableSort_map, stableSort_map]
  congr 2
  funext i j
  exact same _ (List.get_mem xs i) _ (List.get_mem xs j)

/-- Elements of which none has to precede another one stay as they are. -/
theorem stableSort_of_never {α : Type u} {precedes : α → α → Bool} {xs : List α}
    (never : ∀ a ∈ xs, ∀ b ∈ xs, precedes a b = false) : stableSort precedes xs = xs := by
  have unmoved : settle (fun _ _ : α => false) = List.cons := by
    funext x placed
    cases placed <;> rfl
  rw [stableSort_congr never, stableSort, unmoved, List.foldl_flip_cons_eq_append',
    List.append_nil, List.reverse_reverse]

theorem stableSort_of_length_lt_two {α : Type u} (precedes : α → α → Bool) {xs : List α}
    (short : xs.length < 2) : stableSort precedes xs = xs := by
  match xs, short with
  | [], _ => rfl
  | [_], _ => rfl

/-! ## Order and stability -/

/-- `a` may stand before `b` in a stable sort: it is not greater, and if the two are equal in order
it stood before `b` already. -/
def MayPrecede {α : Type u} (cmp : α → α → Ordering) (earlier : α → α → Prop) (a b : α) : Prop :=
  cmp a b ≠ .gt ∧ (cmp a b = .eq → earlier a b)

section Preorder

variable {α : Type u} {cmp : α → α → Ordering} [TransCmp cmp] {earlier : α → α → Prop}

/-- An element that comes after all placed ones settles among them: those that it moves past are
greater, and the first one that is not has nothing greater behind it. -/
theorem settle_pairwise {x : α} {placed : List α}
    (sorted : placed.Pairwise fun b a => MayPrecede cmp earlier a b)
    (last : ∀ y ∈ placed, earlier y x) :
    (settle (fun a b => cmp a b == .lt) x placed).Pairwise
      fun b a => MayPrecede cmp earlier a b := by
  induction placed with
  | nil => exact List.pairwise_singleton _ _
  | cons y placed ih =>
    obtain ⟨sortedY, sortedRest⟩ := List.pairwise_cons.1 sorted
    unfold settle
    split
    case isTrue smaller =>
      rw [beq_iff_eq] at smaller
      -- `x` moves past `y`, and whatever is now before `y` is `x` or was there already.
      refine List.pairwise_cons.2 ⟨fun z memZ => ?_,
        ih sortedRest fun z memZ => last z (List.mem_cons_of_mem _ memZ)⟩
      rcases List.mem_cons.1 ((settle_perm _ x placed).mem_iff.1 memZ) with rfl | memZ
      · exact ⟨by rw [smaller]; decide, fun equal => by rw [smaller] at equal; cases equal⟩
      · exact sortedY z memZ
    case isFalse notSmaller =>
      have notAfter : (cmp y x).isLE := by
        have reversed : cmp y x = (cmp x y).swap := OrientedCmp.eq_swap
        rw [reversed, Ordering.isLE_swap, Ordering.isGE_iff_ne_lt]
        exact fun smaller => notSmaller (beq_iff_eq.2 smaller)
      -- `x` stays behind `y`, and what is before `y` is before `x` by transitivity.
      refine List.pairwise_cons.2 ⟨fun z memZ => ⟨?_, fun _ => last z memZ⟩, sorted⟩
      apply Ordering.isLE_iff_ne_gt.1
      rcases List.mem_cons.1 memZ with rfl | memZ
      · exact notAfter
      · exact TransCmp.isLE_trans (Ordering.isLE_iff_ne_gt.2 (sortedY z memZ).1) notAfter

theorem foldl_settle_pairwise {xs placed : List α} (inOrder : xs.Pairwise earlier)
    (sorted : placed.Pairwise fun b a => MayPrecede cmp earlier a b)
    (apart : ∀ y ∈ placed, ∀ x ∈ xs, earlier y x) :
    (xs.foldl (fun placed x => settle (fun a b => cmp a b == .lt) x placed) placed).Pairwise
      fun b a => MayPrecede cmp earlier a b := by
  induction xs generalizing placed with
  | nil => exact sorted
  | cons x xs ih =>
    obtain ⟨firstX, inOrderRest⟩ := List.pairwise_cons.1 inOrder
    refine ih inOrderRest
      (settle_pairwise sorted fun y memY => apart y memY x List.mem_cons_self) ?_
    intro y memY z memZ
    rcases List.mem_cons.1 ((settle_perm _ x placed).mem_iff.1 memY) with rfl | memY
    · exact firstX z memZ
    · exact apart y memY z (List.mem_cons_of_mem _ memZ)

theorem stableSort_pairwise {xs : List α} (inOrder : xs.Pairwise earlier) :
    (stableSort (fun a b => cmp a b == .lt) xs).Pairwise (MayPrecede cmp earlier) := by
  rw [stableSort, List.pairwise_reverse]
  exact foldl_settle_pairwise inOrder .nil fun _ memY => by cases memY

/-- Elements that may both stand before the other are equal in order, so both came earlier. -/
theorem MayPrecede.asymm [Std.Asymm earlier] {a b : α} (left : MayPrecede cmp earlier a b)
    (right : MayPrecede cmp earlier b a) : False := by
  have equal : cmp a b = .eq := by
    apply OrientedCmp.isLE_antisymm (Ordering.isLE_iff_ne_gt.2 left.1)
    exact Ordering.isLE_iff_ne_gt.2 right.1
  exact Std.Asymm.asymm a b (left.2 equal) (right.2 (OrientedCmp.eq_symm equal))

/-- The stable sort is the only arrangement of a list that is in order and stable. -/
theorem eq_stableSort [Std.Asymm earlier] {xs ys : List α} (inOrder : xs.Pairwise earlier)
    (perm : ys.Perm xs) (sorted : ys.Pairwise (MayPrecede cmp earlier)) :
    ys = stableSort (fun a b => cmp a b == .lt) xs := by
  refine List.Perm.eq_of_pairwise (fun a b _ _ left right => (left.asymm right).elim) sorted
    (stableSort_pairwise inOrder) ?_
  exact perm.trans (stableSort_perm _ xs).symm

end Preorder

/-! ## Places in a list -/

/-- `out` is made of the elements at all the places of `xs`, each taken once; none is greater than a
later one, and of two that are equal in order the one at the earlier place comes first. -/
def StablySorted {α : Type u} (cmp : α → α → Ordering) (xs out : List α) : Prop :=
  ∃ places : List (Fin xs.length),
    places.Perm (List.finRange xs.length) ∧
    places.Pairwise (fun i j =>
      cmp (xs.get i) (xs.get j) ≠ .gt ∧ (cmp (xs.get i) (xs.get j) = .eq → i < j)) ∧
    out = places.map xs.get

/-- A list is sorted by sorting its places. -/
theorem stableSort_eq_map_get {α : Type u} (precedes : α → α → Bool) (xs : List α) :
    stableSort precedes xs =
      (stableSort (fun i j : Fin xs.length => precedes (xs.get i) (xs.get j))
        (List.finRange xs.length)).map xs.get := by
  conv_lhs => rw [← List.map_get_finRange xs]
  exact stableSort_map _ _ _

section Places

variable {α : Type u} {cmp : α → α → Ordering} {xs : List α}

/-- A list has exactly one stable sort under a comparison that is a total preorder on it. -/
theorem stablySorted_iff {out : List α}
    (preorder : TransCmp fun i j : Fin xs.length => cmp (xs.get i) (xs.get j)) :
    StablySorted cmp xs out ↔ out = stableSort (fun a b => cmp a b == .lt) xs := by
  have inOrder := List.pairwise_lt_finRange xs.length
  rw [stableSort_eq_map_get]
  constructor
  · rintro ⟨order, perm, sorted, rfl⟩
    rw [eq_stableSort inOrder perm sorted]
  · rintro rfl
    exact ⟨_, stableSort_perm _ _, stableSort_pairwise inOrder, rfl⟩

/-- Leaving out elements of a sorted list gives what sorting the others gives: at the places that are
left, the elements are in order and stable as they were. -/
theorem filter_stableSort
    (preorder : TransCmp fun i j : Fin xs.length => cmp (xs.get i) (xs.get j)) (keep : α → Bool) :
    (stableSort (fun a b => cmp a b == .lt) xs).filter keep =
      stableSort (fun a b => cmp a b == .lt) (xs.filter keep) := by
  let before (i j : Fin xs.length) : Bool := cmp (xs.get i) (xs.get j) == .lt
  have inOrder := List.pairwise_lt_finRange xs.length
  have sorted : (stableSort before (List.finRange xs.length)).Pairwise
      (MayPrecede (fun i j => cmp (xs.get i) (xs.get j)) (· < ·)) := stableSort_pairwise inOrder
  have places := eq_stableSort (inOrder.filter (keep ∘ xs.get))
    ((stableSort_perm before _).filter (keep ∘ xs.get)) (sorted.filter (keep ∘ xs.get))
  calc (stableSort (fun a b => cmp a b == .lt) xs).filter keep
    _ = ((stableSort before (List.finRange xs.length)).map xs.get).filter keep := by
      rw [stableSort_eq_map_get]
    _ = ((stableSort before (List.finRange xs.length)).filter (keep ∘ xs.get)).map xs.get :=
      List.filter_map
    _ = (stableSort before ((List.finRange xs.length).filter (keep ∘ xs.get))).map xs.get :=
      congrArg (List.map xs.get) places
    _ = stableSort (fun a b => cmp a b == .lt)
        (((List.finRange xs.length).filter (keep ∘ xs.get)).map xs.get) :=
      (stableSort_map (fun a b => cmp a b == .lt) xs.get _).symm
    _ = stableSort (fun a b => cmp a b == .lt) (xs.filter keep) := by
      rw [← List.filter_map, List.map_get_finRange]

end Places

end RecordQuery
