import RecordQuery.Query.Page
import Mathlib.Data.List.Flatten

/-!
Pages as windows. A page takes the records behind its offset, as many as its size allows
(`Page.window_eq_take_drop`). Pages of one size that start at the multiples
of the size cut a list into pieces: put one behind the other, they are the list again
(`Page.flatMap_starts`).
-/

namespace RecordQuery.Page

theorem check_eq_ok_iff {p : Page} :
    p.check = .ok () ↔ 0 ≤ p.size ∧ p.size ≤ 500 ∧ 0 ≤ p.offset := by
  unfold check minSize maxSize minOffset
  constructor
  · intro ok
    split at ok
    · cases ok
    split at ok
    · cases ok
    split at ok
    · cases ok
    omega
  · rintro ⟨sizeNonneg, sizeLe, offsetNonneg⟩
    rw [if_neg (by omega), if_neg (by omega), if_neg (by omega)]

section Window

variable {ρ : Type u} {p : Page}

theorem window_eq_take_drop (offsetNonneg : 0 ≤ p.offset) (records : List ρ) :
    p.window records = (records.drop p.offset.toNat).take p.size.toNat := by
  unfold window bounds
  split
  case isTrue nothing =>
    symm
    rw [List.take_zero, List.drop_nil, List.take_eq_nil_iff, List.drop_eq_nil_iff]
    omega
  case isFalse =>
    rw [List.drop_take, List.take_eq_take_iff, List.length_drop]
    omega

/-- A page holds as many records as its size allows and the list has behind the offset. -/
theorem length_window (sizeNonneg : 0 ≤ p.size) (offsetNonneg : 0 ≤ p.offset)
    (records : List ρ) :
    ((p.window records).length : Int) = min p.size (max 0 (records.length - p.offset)) := by
  rw [window_eq_take_drop offsetNonneg, List.length_take, List.length_drop]
  omega

/-- Whatever its numbers, a page takes records of the list in their order. -/
theorem window_sublist (p : Page) (records : List ρ) : (p.window records).Sublist records :=
  (List.drop_sublist _ _).trans (List.take_sublist _ _)

end Window

/-! ## One page after the other -/

/-- The multiples of a page size below the number of records, at which pages of that size start. -/
def starts (size total : Nat) : List Nat := (List.range total).filter (size ∣ ·)

theorem starts_of_le {size total : Nat} (pos : 0 < total) (le : total ≤ size) :
    starts size total = [0] := by
  obtain ⟨n, rfl⟩ : ∃ n, total = n + 1 := ⟨total - 1, by omega⟩
  have others : ((List.range n).map Nat.succ).filter (size ∣ ·) = [] := by
    rw [List.filter_eq_nil_iff]
    intro k mem
    obtain ⟨m, below, rfl⟩ := List.mem_map.1 mem
    have := List.mem_range.1 below
    rw [decide_eq_true_eq]
    exact Nat.not_dvd_of_pos_of_lt m.succ_pos (by omega)
  rw [starts, List.range_succ_eq_map, List.filter_cons_of_pos (by simp), others]

theorem starts_add {size rest : Nat} (pos : 0 < size) :
    starts size (size + rest) = 0 :: (starts size rest).map (size + ·) := by
  have shifted : (fun n => decide (size ∣ n)) ∘ (size + ·) = fun n => decide (size ∣ n) := by
    funext n
    rw [Function.comp_apply, decide_eq_decide, Nat.dvd_add_right (Nat.dvd_refl size)]
  have first := starts_of_le pos (Nat.le_refl size)
  rw [starts] at first
  rw [starts, List.range_add, List.filter_append, first, List.filter_map, shifted]
  rfl

/-- The pages of one size, put one behind the other, are the whole list. -/
theorem flatMap_starts {ρ : Type u} {size : Nat} (pos : 0 < size) (records : List ρ) :
    (starts size records.length).flatMap (fun offset => (records.drop offset).take size) =
      records := by
  induction total : records.length using Nat.strongRecOn generalizing records with
  | ind n ih =>
    rcases Nat.eq_zero_or_pos n with rfl | some
    · rw [List.eq_nil_of_length_eq_zero total]
      rfl
    · rcases Nat.lt_or_ge size n with more | last
      · obtain ⟨rest, rfl⟩ : ∃ rest, n = size + rest := ⟨n - size, by omega⟩
        have behind : (records.drop size).length = rest := by
          rw [List.length_drop, total, Nat.add_sub_cancel_left]
        have others := ih rest (by omega) (records.drop size) behind
        simp only [List.drop_drop] at others
        rw [starts_add pos, List.flatMap_cons, List.flatMap_map, others, List.drop_zero,
          List.take_append_drop]
      · rw [starts_of_le some last, List.flatMap_singleton, List.drop_zero,
          List.take_of_length_le (by omega)]

end RecordQuery.Page
