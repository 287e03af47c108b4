import RecordQuery.Proofs.PageWindow
import RecordQuery.Selection.Basic

/-!
Pages whose numbers are words of 64 bits. The bounds of a page are places of the list, in order
(`Page.bounds_le`), so a list can be cut at the later one and then at the earlier one
(`Page.cutAt?_bounds`). Computed in words they are the same, since two numbers of a page never add up
to more than a word holds (`Page.wordBounds?_eq`). `Selection.paginate_words` says this of the page
stage, with the records that it keeps.
-/

namespace RecordQuery

namespace Page

/-! ## Cutting at the bounds -/

/-- Cuts a list off at `stop` and then takes away what is before `start`. Both have to be places of the
list as it is at that moment. -/
def cutAt? {ρ : Type u} (start stop : Nat) (records : List ρ) : Option (List ρ) :=
  if stop ≤ records.length then
    let kept := records.take stop
    if start ≤ kept.length then some (kept.drop start) else none
  else none

section Bounds

variable {ρ : Type u} {p : Page}

theorem bounds_le (p : Page) (length : Nat) :
    (p.bounds length).1 ≤ (p.bounds length).2 ∧ (p.bounds length).2 ≤ length := by
  unfold bounds
  split
  case isTrue => exact ⟨Nat.le_refl 0, Nat.zero_le length⟩
  case isFalse someRecords =>
    obtain ⟨-, -, within⟩ : ¬ p.offset < 0 ∧ ¬ p.size ≤ 0 ∧ ¬ (length : Int) ≤ p.offset := by
      simpa only [not_or] using someRecords
    exact ⟨Nat.le_min.2 ⟨Nat.le_add_right _ _, by omega⟩, Nat.min_le_right _ _⟩

theorem cutAt?_bounds (p : Page) (records : List ρ) :
    cutAt? (p.bounds records.length).1 (p.bounds records.length).2 records =
      some (p.window records) := by
  obtain ⟨inOrder, within⟩ := p.bounds_le records.length
  have kept : (p.bounds records.length).1 ≤ (records.take (p.bounds records.length).2).length := by
    rw [List.length_take, Nat.min_eq_left within]
    exact inOrder
  rw [cutAt?, if_pos within, if_pos kept]
  rfl

theorem window_of_negative (negative : p.size < 0 ∨ p.offset < 0) (records : List ρ) :
    p.window records = [] := by
  have nothing : p.bounds records.length = (0, 0) := if_pos (by omega)
  rw [window, nothing]
  rfl

end Bounds

/-! ## Words -/

/-- The sum of two words, unless it is too large for a word. -/
def addWords? (a b : UInt64) : Option UInt64 :=
  if a.toNat + b.toNat < UInt64.size then some (a + b) else none

/-- The bounds of a page, computed in words. -/
def wordBounds? (size offset : Int64) (length : UInt64) : Option (UInt64 × UInt64) :=
  if offset < 0 ∨ size ≤ 0 ∨ length ≤ offset.toUInt64 then some (0, 0)
  else (addWords? offset.toUInt64 size.toUInt64).map fun stop => (offset.toUInt64, min stop length)

theorem toNat_toUInt64 {n : Int64} (nonneg : 0 ≤ n.toInt) : n.toUInt64.toNat = n.toInt.toNat :=
  Int64.toNat_toUInt64_of_le (Int64.le_iff_toInt_le.2 nonneg)

theorem toNat_min (a b : UInt64) : (min a b).toNat = min a.toNat b.toNat := by
  change (if a ≤ b then a else b).toNat = min a.toNat b.toNat
  split
  case isTrue le => exact (Nat.min_eq_left (UInt64.le_iff_toNat_le.1 le)).symm
  case isFalse gt =>
    rw [UInt64.le_iff_toNat_le] at gt
    exact (Nat.min_eq_right (by omega)).symm

/-- Two words that are not negative as signed ones have a sum. -/
theorem exists_addWords? {m n : Int64} (nonnegM : 0 ≤ m.toInt) (nonnegN : 0 ≤ n.toInt) :
    ∃ sum, addWords? m.toUInt64 n.toUInt64 = some sum ∧
      sum.toNat = m.toInt.toNat + n.toInt.toNat := by
  have fits : m.toUInt64.toNat + n.toUInt64.toNat < UInt64.size := by
    have mostM := m.toInt_lt
    have mostN := n.toInt_lt
    rw [toNat_toUInt64 nonnegM, toNat_toUInt64 nonnegN]
    change _ < 18446744073709551616
    omega
  refine ⟨_, if_pos fits, ?_⟩
  rw [UInt64.toNat_add, Nat.mod_eq_of_lt fits, toNat_toUInt64 nonnegM, toNat_toUInt64 nonnegN]

/-- In words the bounds are the same, and their sum always fits. -/
theorem wordBounds?_eq (size offset : Int64) (length : UInt64) :
    (wordBounds? size offset length).map (Prod.map UInt64.toNat UInt64.toNat) =
      some (bounds ⟨size.toInt, offset.toInt⟩ length.toNat) := by
  have nothing : (offset < 0 ∨ size ≤ 0 ∨ length ≤ offset.toUInt64) ↔
      (offset.toInt < 0 ∨ size.toInt ≤ 0 ∨ (length.toNat : Int) ≤ offset.toInt) := by
    rw [Int64.lt_iff_toInt_lt, Int64.le_iff_toInt_le, UInt64.le_iff_toNat_le, Int64.toInt_zero]
    rcases Int.lt_or_le offset.toInt 0 with negative | nonneg
    · exact iff_of_true (.inl negative) (.inl negative)
    · rw [toNat_toUInt64 nonneg]
      omega
  by_cases empty : offset.toInt < 0 ∨ size.toInt ≤ 0 ∨ (length.toNat : Int) ≤ offset.toInt
  case pos =>
    rw [wordBounds?, if_pos (nothing.2 empty), bounds, if_pos empty]
    rfl
  case neg =>
    have nonneg : 0 ≤ offset.toInt ∧ 0 ≤ size.toInt := by omega
    obtain ⟨sum, added, exactSum⟩ := exists_addWords? nonneg.1 nonneg.2
    rw [wordBounds?, if_neg (mt nothing.1 empty), bounds, if_neg empty, added, Option.map_some,
      Option.map_some, Prod.map_apply, toNat_min, exactSum, toNat_toUInt64 nonneg.1]

end Page

/-- A page of two words keeps, of the records behind its offset, as many as its size allows, and none if
one of its numbers is negative. Its bounds are places of the list, in order, at which the list can be
cut, and computing them in words gives the same without overflow. -/
theorem Selection.paginate_words {ρ : Type u} (q : Query) (size offset : Int64) (s : Selection ρ) :
    let page : Page := ⟨size.toInt, offset.toInt⟩
    let start := (page.bounds s.records.length).1
    let stop := (page.bounds s.records.length).2
    (s.paginate (q.onPage page)).records =
        (if 0 ≤ size ∧ 0 ≤ offset then (s.records.drop offset.toInt.toNat).take size.toInt.toNat
          else []) ∧
      start ≤ stop ∧ stop ≤ s.records.length ∧
      Page.cutAt? start stop s.records = some (s.paginate (q.onPage page)).records ∧
      ∀ length : UInt64,
        (Page.wordBounds? size offset length).map (Prod.map UInt64.toNat UInt64.toNat) =
          some (page.bounds length.toNat) := by
  intro page start stop
  have window : (s.paginate (q.onPage page)).records = page.window s.records := rfl
  obtain ⟨inOrder, within⟩ := page.bounds_le s.records.length
  refine ⟨?_, inOrder, within, page.cutAt?_bounds s.records, Page.wordBounds?_eq size offset⟩
  rw [window]
  simp only [Int64.le_iff_toInt_le, Int64.toInt_zero]
  split
  case isTrue nonneg => exact Page.window_eq_take_drop nonneg.2 s.records
  case isFalse negative =>
    have oneNegative : page.size < 0 ∨ page.offset < 0 := by
      change size.toInt < 0 ∨ offset.toInt < 0
      omega
    exact Page.window_of_negative oneNegative s.records

/-- The largest numbers add up to a place far behind the list, but not to more than a word. -/
example :
    Page.wordBounds? Int64.maxValue Int64.maxValue 0xffffffffffffffff =
      some (0x7fffffffffffffff, 0xfffffffffffffffe) := by
  decide +kernel

end RecordQuery
