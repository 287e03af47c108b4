import RecordQuery.Proofs.PageWindow
import RecordQuery.Proofs.StageOrder
import Mathlib.Data.List.Induction
import Mathlib.Data.List.Perm.Subperm

/-!
Runs of stages, in any order and number. No stage adds a record or repeats one
(`Selection.apply_records_subperm`), and only sorting moves records
(`Selection.apply_records_sublist`). Once a filter has run, all records that are left pass it, whatever
runs afterwards (`Selection.accepts_of_mem_applyAll`). `Selection.applyAll_step` says this of every step
of every run.
-/

namespace RecordQuery

variable {ρ : Type u} {q : Query} {access : Accessor ρ}

/-- Whether a stage filters the records, alone or among other things. -/
def Stage.Filters : Stage → Prop
  | .filter => True
  | .sort => False
  | .paginate => False
  | .run => True

namespace Selection

/-- There are keys to sort by and records to sort, and each key field is on every record with one
kind of value. -/
def IsSorted (q : Query) (access : Accessor ρ) (s : Selection ρ) : Prop :=
  q.sorting.keys ≠ [] ∧ 2 ≤ s.records.length ∧ OneKind access q.sorting.keys s.records

/-- Whether a stage comes to sorting the records. -/
def SortsIn (q : Query) (access : Accessor ρ) (s : Selection ρ) : Stage → Prop
  | .filter => False
  | .sort => s.IsSorted q access
  | .paginate => False
  | .run => (s.filter q access).IsSorted q access

/-! ## One stage -/

theorem filter_records_sublist (q : Query) (access : Accessor ρ) (s : Selection ρ) :
    (s.filter q access).records.Sublist s.records := by
  rw [filter_records]
  exact List.filter_sublist

theorem paginate_records_sublist (q : Query) (s : Selection ρ) :
    (s.paginate q).records.Sublist s.records := by
  unfold paginate
  split
  case h_1 => exact .refl _
  case h_2 page _ => exact page.window_sublist s.records

/-- Where the sort stage does not sort, the records stay as they are. -/
theorem sort_records_of_not_isSorted {s : Selection ρ} (unsorted : ¬ s.IsSorted q access) :
    (s.sort q access).records = s.records := by
  by_cases oneKind : OneKind access q.sorting.keys s.records
  case neg => exact sort_records_of_not_oneKind oneKind
  unfold sort
  rw [if_pos]
  rw [Bool.or_eq_true, decide_eq_true_eq]
  by_contra something
  rw [not_or, Nat.not_lt, Sorting.isEmpty, List.isEmpty_iff] at something
  exact unsorted ⟨something.1, something.2, oneKind⟩

/-- No stage adds a record or repeats one. -/
theorem apply_records_subperm (q : Query) (access : Accessor ρ) (s : Selection ρ) (stage : Stage) :
    (s.apply q access stage).records.Subperm s.records := by
  have sorts (s : Selection ρ) : (s.sort q access).records.Subperm s.records :=
    (sort_records_perm q access s).subperm
  cases stage with
  | filter => exact (filter_records_sublist q access s).subperm
  | sort => exact sorts s
  | paginate => exact (paginate_records_sublist q s).subperm
  | run =>
    have filters := (filter_records_sublist q access s).subperm
    exact (paginate_records_sublist q _).subperm.trans ((sorts _).trans filters)

/-- A stage that does not sort keeps the records in their order. -/
theorem apply_records_sublist {s : Selection ρ} {stage : Stage}
    (unsorted : ¬ s.SortsIn q access stage) : (s.apply q access stage).records.Sublist s.records := by
  cases stage with
  | filter => exact filter_records_sublist q access s
  | sort =>
    have unmoved : (s.sort q access).records = s.records := sort_records_of_not_isSorted unsorted
    rw [apply, unmoved]
  | paginate => exact paginate_records_sublist q s
  | run =>
    have unmoved : ((s.filter q access).sort q access).records = (s.filter q access).records :=
      sort_records_of_not_isSorted unsorted
    have onPage := paginate_records_sublist q ((s.filter q access).sort q access)
    rw [unmoved] at onPage
    exact onPage.trans (filter_records_sublist q access s)

theorem accepts_of_mem_filter {s : Selection ρ} {r : ρ} (mem : r ∈ (s.filter q access).records) :
    q.accepts access r = true := by
  rw [filter_records] at mem
  exact (List.mem_filter.1 mem).2

/-- What a stage that filters leaves passes the filter. -/
theorem accepts_of_mem_apply {s : Selection ρ} {stage : Stage} (filters : stage.Filters) {r : ρ}
    (mem : r ∈ (s.apply q access stage).records) : q.accepts access r = true := by
  cases stage with
  | filter => exact accepts_of_mem_filter mem
  | sort => exact filters.elim
  | paginate => exact filters.elim
  | run =>
    have onPage := (paginate_records_sublist q _).subset mem
    exact accepts_of_mem_filter ((sort_records_perm q access _).mem_iff.1 onPage)

/-! ## Runs -/

theorem applyAll_concat (q : Query) (access : Accessor ρ) (s : Selection ρ) (done : List Stage)
    (stage : Stage) :
    s.applyAll q access (done ++ [stage]) = (s.applyAll q access done).apply q access stage :=
  List.foldl_concat ..

/-- A run leaves some of the records it starts with, each as often as it was there at most. -/
theorem applyAll_records_subperm (q : Query) (access : Accessor ρ) (s : Selection ρ)
    (done : List Stage) : (s.applyAll q access done).records.Subperm s.records := by
  induction done using List.reverseRecOn with
  | nil => exact List.Subperm.refl _
  | append_singleton done stage ih =>
    rw [applyAll_concat]
    exact (apply_records_subperm q access _ stage).trans ih

/-- From the first stage that filters on, all records pass the filter: that stage leaves only such
records, and no later one adds any. -/
theorem accepts_of_mem_applyAll {s : Selection ρ} {done : List Stage}
    (filtered : ∃ stage ∈ done, stage.Filters) :
    ∀ r ∈ (s.applyAll q access done).records, q.accepts access r = true := by
  induction done using List.reverseRecOn with
  | nil =>
    obtain ⟨_, mem, _⟩ := filtered
    cases mem
  | append_singleton done last ih =>
    intro r mem
    rw [applyAll_concat] at mem
    obtain ⟨stage, memStage, filters⟩ := filtered
    rcases List.mem_append.1 memStage with before | isLast
    · exact ih ⟨stage, before, filters⟩ r ((apply_records_subperm q access _ last).subset mem)
    · rw [List.mem_singleton] at isLast
      subst isLast
      exact accepts_of_mem_apply filters mem

/-- In a run of stages, no step adds a record or repeats one, and none but sorting changes the order
of the records. From the first step that filters on, all records pass the filter, so filtering again
changes nothing. -/
theorem applyAll_step (q : Query) (access : Accessor ρ) (s : Selection ρ) (done : List Stage)
    (stage : Stage) :
    let before := s.applyAll q access done
    let after := s.applyAll q access (done ++ [stage])
    after.records.Subperm before.records ∧
      after.records.length ≤ before.records.length ∧
      (¬ before.SortsIn q access stage → after.records.Sublist before.records) ∧
      ((∃ earlier ∈ done, earlier.Filters) →
        (∀ r ∈ before.records, q.accepts access r = true) ∧
          (before.filter q access).records = before.records) := by
  intro before after
  have step : after = before.apply q access stage := applyAll_concat q access s done stage
  have kept : after.records.Subperm before.records := by
    rw [step]
    exact apply_records_subperm q access before stage
  refine ⟨kept, kept.length_le, fun unsorted => ?_, fun filtered => ?_⟩
  · rw [step]
    exact apply_records_sublist unsorted
  · have accepted : ∀ r ∈ before.records, q.accepts access r = true :=
      accepts_of_mem_applyAll filtered
    refine ⟨accepted, ?_⟩
    rw [filter_records]
    exact List.filter_eq_self.2 accepted

/-- One record that passes the filter has no size, so the second sort leaves the records on the page in
their order; the record that occurs twice still does. -/
theorem applyAll_step_of_missing_size :
    let access : Accessor (String × Int64) := fun r field =>
      if field = "name" then some (.text r.1)
      else if field = "size" ∧ 0 ≤ r.2 then some (.int r.2) else none
    let q : Query := {
      filter := ⟨[⟨"name", .text "a"⟩]⟩
      sorting := ⟨[⟨"name", .ascending⟩, ⟨"size", .ascending⟩]⟩
      page := some ⟨4, 0⟩ }
    let s := ofRecords [("b", 5), ("a", 7), ("ab", -1), ("A", 2), ("a", 7), ("ca", 0)]
    let done : List Stage := [.sort, .run, .filter]
    let before := s.applyAll q access done
    let after := s.applyAll q access (done ++ [.sort])
    before.records = [("a", 7), ("ab", -1), ("A", 2), ("a", 7)] ∧
      ¬ before.SortsIn q access .sort ∧ (∃ earlier ∈ done, earlier.Filters) ∧
      after.records.Sublist before.records ∧
      (∀ r ∈ before.records, q.accepts access r = true) ∧
      (before.filter q access).records = before.records := by
  intro access q s done before after
  have left : before.records = [("a", 7), ("ab", -1), ("A", 2), ("a", 7)] := by decide +kernel
  have unsorted : ¬ before.SortsIn q access .sort := by
    rintro ⟨-, -, oneKind⟩
    obtain ⟨_, ofKind⟩ := oneKind ⟨"size", .ascending⟩ (by decide)
    rw [left] at ofKind
    obtain ⟨_, present, -⟩ := ofKind ("ab", -1) (by decide)
    cases present
  have filtered : ∃ earlier ∈ done, earlier.Filters := ⟨.run, by decide, trivial⟩
  obtain ⟨-, -, inOrder, fromFilter⟩ := applyAll_step q access s done .sort
  obtain ⟨accepted, unchanged⟩ := fromFilter filtered
  exact ⟨left, unsorted, filtered, inOrder unsorted, accepted, unchanged⟩

end Selection

end RecordQuery
