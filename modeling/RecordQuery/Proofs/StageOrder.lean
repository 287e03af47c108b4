import RecordQuery.Proofs.RecordOrder

/-!
Stages of a selection in another order. Filtering keeps the records that pass the filter, whatever was
done before (`Selection.filter_records`). If keys sort a list of records, they sort what is left of it
(`Sortable.of_subset`), and sorting before filtering returns what sorting afterwards does
(`Selection.filter_sort_comm`).
-/

namespace RecordQuery

variable {ρ : Type u} {access : Accessor ρ}

theorem Query.accepts_of_isEmpty {q : Query} (noFilter : q.filter.isEmpty) (record : ρ) :
    q.accepts access record = true := by
  have noPredicates : q.filter.predicates = [] := List.isEmpty_iff.1 noFilter
  unfold Query.accepts Filter.matcher
  rw [noPredicates]
  rfl

/-- The filter stage keeps the records that pass the filter. -/
theorem Selection.filter_records (q : Query) (access : Accessor ρ) (s : Selection ρ) :
    (s.filter q access).records = s.records.filter (q.accepts access) := by
  unfold Selection.filter
  split
  case isTrue noFilter =>
    exact (List.filter_eq_self.2 fun r _ => Query.accepts_of_isEmpty noFilter r).symm
  case isFalse => rfl

theorem Sortable.of_subset {keys : List SortKey} {records others : List ρ}
    (sortable : Sortable access keys records) (subset : others ⊆ records) :
    Sortable access keys others := by
  constructor
  · intro key mem
    obtain ⟨kind, oneKind⟩ := sortable.oneKind key mem
    exact ⟨kind, fun r memR => oneKind r (subset memR)⟩
  · intro key mem
    rcases sortable.timestamps key mem with readable | unreadable
    · exact .inl fun r memR => readable r (subset memR)
    · exact .inr fun r memR => unreadable r (subset memR)

namespace Selection

/-- Records that keys sort may be filtered before they are sorted or afterwards. -/
theorem filter_sort_comm {q : Query} {s : Selection ρ}
    (sortable : Sortable access q.sorting.keys s.records) :
    ((s.filter q access).sort q access).records = ((s.sort q access).filter q access).records := by
  have kept := filter_records q access s
  have sortableKept : Sortable access q.sorting.keys (s.filter q access).records := by
    rw [kept]
    exact sortable.of_subset (List.filter_subset_self s.records)
  rw [sort_records_eq sortableKept, kept, filter_records, sort_records_eq sortable]
  exact (filter_stableSort sortable.transCmp_lexOrder (q.accepts access)).symm

/-- Two records do not pass the filter. Of the others, the names that are equal in order stay as they
are, and so do the two equal records. -/
theorem filter_sort_comm_by_name :
    let access : Accessor (String × Int64) := fun r field =>
      if field = "name" then some (.text r.1)
      else if field = "size" then some (.int r.2) else none
    let q : Query := {
      filter := ⟨[⟨"name", .text "a"⟩, ⟨"size", .text "7"⟩]⟩
      sorting := ⟨[⟨"name", .descending⟩]⟩ }
    let records := [("b", 1), ("A", 2), ("ca", 3), ("b", 7), ("a", 4), ("ca", 3), ("b", 0)]
    Sortable access q.sorting.keys records ∧
      (((ofRecords records).filter q access).sort q access).records =
        [("ca", 3), ("ca", 3), ("b", 7), ("A", 2), ("a", 4)] ∧
      (((ofRecords records).sort q access).filter q access).records =
        [("ca", 3), ("ca", 3), ("b", 7), ("A", 2), ("a", 4)] := by
  intro access q records
  have names (r : String × Int64) : access r "name" = some (.text r.1) := rfl
  have sortable : Sortable access q.sorting.keys records := by
    refine ⟨List.forall_mem_singleton.2 ?_, List.forall_mem_singleton.2 (.inl ?_)⟩
    · exact ⟨.text, fun r _ => ⟨_, names r, rfl⟩⟩
    · intro r _ t isTime
      rw [names] at isTime
      cases isTime
  have filteredFirst : (((ofRecords records).filter q access).sort q access).records =
      [("ca", 3), ("ca", 3), ("b", 7), ("A", 2), ("a", 4)] := by decide +kernel
  have sortedFirst := filter_sort_comm (s := ofRecords records) sortable
  exact ⟨sortable, filteredFirst, sortedFirst.symm.trans filteredFirst⟩

end Selection

end RecordQuery
