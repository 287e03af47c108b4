import RecordQuery.Proofs.FilterMeaning
import RecordQuery.Proofs.ListAnswer
import RecordQuery.Proofs.PatternMeaning

/-!
What is reported while a list request is answered. Each stage adds to the events what it found out, and what
that is can be told from the query and from the records that the stage starts with: which needles cannot be
used (`Selection.filter_events`), and what is in the way of sorting (`Selection.sort_events`). A stage that has
nothing to do is silent. The numbers in the events of a request agree with its answer
(`ListRequest.events_eq_report`).
-/

namespace RecordQuery

variable {ρ : Type u} {access : Accessor ρ}

/-! ## Needles -/

/-- A needle has stars and is over the size limit, in lower case. -/
def Pattern.IsUnusable (needle : String) : Prop :=
  '*' ∈ Text.lower needle.toList ∧ sizeLimit < preparedSize (Text.lower needle.toList)

instance (needle : String) : Decidable (Pattern.IsUnusable needle) :=
  inferInstanceAs (Decidable (_ ∧ _))

/-- The texts that a filter asks for in vain, each once, in the order in which they first come up. -/
def Filter.unusableNeedles (f : Filter) : List String :=
  (Predicate.texts f.predicates).eraseDups.filter fun needle => Pattern.IsUnusable needle

theorem PatternTable.oversized_ofTexts (needles : List String) :
    (PatternTable.ofTexts needles).oversized =
      (needles.filter fun needle => Pattern.IsUnusable needle).map fun needle =>
        String.ofList (Text.lower needle.toList) := by
  have sameTest : ((fun entry : String × Pattern => entry.2 == .oversized) ∘
      fun needle => (needle, Pattern.compile needle)) =
        fun needle => decide (Pattern.IsUnusable needle) := by
    funext needle
    rw [Function.comp_apply, Bool.eq_iff_iff, beq_iff_eq, decide_eq_true_eq]
    exact Pattern.ofLower_eq_oversized_iff
  rw [oversized, ofTexts, List.filter_map, List.map_map, sameTest]
  rfl

/-- The filter stage reports the needles that cannot be used, and then how many records it left of how many. A
filter without predicates reports nothing. -/
theorem Selection.filter_events (q : Query) (access : Accessor ρ) (s : Selection ρ) :
    (s.filter q access).events =
      s.events ++ q.filter.unusableNeedles.map (fun needle =>
          .oversizedNeedle (String.ofList (Text.lower needle.toList))) ++
        if q.filter.predicates = [] then []
        else [.filtered s.records.length (s.filter q access).records.length] := by
  unfold Selection.filter
  by_cases none : q.filter.predicates = []
  · have noFilter : q.filter.isEmpty = true := List.isEmpty_iff.2 none
    have noNeedles : q.filter.unusableNeedles = [] := by
      rw [Filter.unusableNeedles, none]
      rfl
    rw [if_pos none, if_pos noFilter, noNeedles, List.map_nil, List.append_nil, List.append_nil]
  · have someFilter : ¬ q.filter.isEmpty = true := mt List.isEmpty_iff.1 none
    rw [if_neg none, if_neg someFilter, Filter.matcher_eq, Filter.unusableNeedles]
    simp only [PatternTable.oversized_ofTexts, List.map_map, List.append_assoc]
    rfl

/-! ## Sorting -/

/-- What the sort stage reports. With keys and with two records or more, it is what is in the way of sorting,
or that the records are sorted. -/
def sortReport (access : Accessor ρ) (sorting : Sorting) (records : List ρ) : List Event :=
  if sorting.keys = [] ∨ records.length < 2 then []
  else
    match sortObstacle? access sorting.keys records with
    | some obstacle => [.leftUnsorted obstacle]
    | none => [.sorted records.length sorting]

theorem Selection.sort_events (q : Query) (access : Accessor ρ) (s : Selection ρ) :
    (s.sort q access).events = s.events ++ sortReport access q.sorting s.records := by
  have idle : (q.sorting.isEmpty || decide (s.records.length < 2)) = true ↔
      q.sorting.keys = [] ∨ s.records.length < 2 := by
    rw [Bool.or_eq_true, decide_eq_true_eq, Sorting.isEmpty, List.isEmpty_iff]
  unfold Selection.sort sortReport
  by_cases nothingToSort : q.sorting.keys = [] ∨ s.records.length < 2
  · rw [if_pos nothingToSort, if_pos (idle.2 nothingToSort), List.append_nil]
  · rw [if_neg nothingToSort, if_neg (mt idle.1 nothingToSort), sortRows_eq]
    cases sortObstacle? access q.sorting.keys s.records with
    | some obstacle => rfl
    | none => simp

/-- The messages of what the sort stage reports. -/
theorem messages_sortReport (access : Accessor ρ) (sorting : Sorting) (records : List ρ) :
    (sortReport access sorting records).map (·.toEntry.message) =
      if sorting.keys = [] ∨ records.length < 2 then []
      else
        match sortObstacle? access sorting.keys records with
        | none => ["sorted records"]
        | some (.absent _) => ["sort skipped: field absent on a record"]
        | some (.mixedKinds _) => ["sort skipped: field has mixed kinds"] := by
  unfold sortReport
  split
  case isTrue => rfl
  case isFalse =>
    rcases sortObstacle? access sorting.keys records with _ | (_ | _) <;> rfl

/-! ## Runs -/

theorem Selection.paginate_events {q : Query} {page : Page} (onPage : q.page = some page)
    (s : Selection ρ) :
    (s.paginate q).events = s.events ++ [.paginated page (s.paginate q).records.length] := by
  unfold Selection.paginate
  rw [onPage]

/-- The events of a run, told from its query and its records. -/
theorem Selection.run_events {q : Query} {page : Page} (onPage : q.page = some page)
    (access : Accessor ρ) (records : List ρ) :
    ((Selection.ofRecords records).run q access).events =
      q.filter.unusableNeedles.map (fun needle =>
        .oversizedNeedle (String.ofList (Text.lower needle.toList))) ++
      (if q.filter.predicates = [] then []
        else [.filtered records.length (records.filter (q.accepts access)).length]) ++
      sortReport access q.sorting (records.filter (q.accepts access)) ++
      [.paginated page (q.select access records).length] := by
  rw [Selection.run, Selection.paginate_events onPage, Selection.sort_events,
    Selection.filter_events, Selection.filter_records]
  rfl

/-! ## Requests -/

namespace ListRequest

variable [Queryable ρ]

theorem events_of_toQuery_error {r : ListRequest} {options : ListOptions} {reason : Rejection}
    (refused : r.toQuery options = .error reason) (records : List ρ) :
    r.events options records = [.rejected reason r] := by
  unfold events answer
  rw [refused]

theorem events_of_toQuery_ok {r : ListRequest} {options : ListOptions} {q : Query}
    (asked : r.toQuery options = .ok q) (records : List ρ) :
    r.events options records =
      ((Selection.ofRecords records).run q Queryable.access).events.map .stage ++
        [.selected records.length (q.count Queryable.access records)
          (q.select Queryable.access records).length] := by
  unfold events answer
  rw [asked, Query.count_eq_length_filter]
  simp only [Selection.filter_records, Selection.ofRecords]
  rfl

/-- The query of a request has the page of the request. -/
theorem page_of_toQuery_ok {r : ListRequest} {options : ListOptions} {q : Query}
    (asked : r.toQuery options = .ok q) : q.page = some (r.page options) := by
  unfold toQuery at asked
  obtain ⟨-, -, asked⟩ := bind_eq_ok_iff.1 asked
  obtain ⟨sorting, -, asked⟩ := bind_eq_ok_iff.1 asked
  obtain ⟨filter, -, asked⟩ := bind_eq_ok_iff.1 asked
  cases asked
  rfl

/-- A refused request is reported as such, and nothing else is. Any other request is reported stage by stage:
each needle that cannot be used, once and however many records there are; the records that pass the filter, if it
has predicates; the outcome of sorting, if there are keys and two records to sort; the page; and then the
request as a whole. The numbers are those of the answer. -/
theorem events_eq_report (r : ListRequest) (options : ListOptions) (records : List ρ) :
    let messages := (r.events options records).map (·.toEntry.message)
    match r.toQuery options with
    | .error reason =>
      r.select options records = .error reason ∧
      r.events options records = [.rejected reason r] ∧
      messages = ["rejected list request"]
    | .ok q =>
      let kept := records.filter (q.accepts Queryable.access)
      ∃ page : ListPage ρ,
        r.select options records = .ok page ∧ page.totalElements = kept.length ∧
        let stages : List Event :=
          q.filter.unusableNeedles.map (fun needle =>
            .oversizedNeedle (String.ofList (Text.lower needle.toList))) ++
          (if q.filter.predicates = [] then [] else [.filtered records.length page.totalElements]) ++
          sortReport Queryable.access q.sorting kept ++
          [.paginated (r.page options) page.items.length]
        r.events options records =
          stages.map .stage ++
            [.selected records.length page.totalElements page.items.length] ∧
        messages =
          q.filter.unusableNeedles.map (fun _ =>
            "wildcard pattern failed to compile; it matches nothing") ++
          (if q.filter.predicates = [] then [] else ["filtered records"]) ++
          (if q.sorting.keys = [] ∨ kept.length < 2 then []
            else
              match sortObstacle? Queryable.access q.sorting.keys kept with
              | none => ["sorted records"]
              | some (.absent _) => ["sort skipped: field absent on a record"]
              | some (.mixedKinds _) => ["sort skipped: field has mixed kinds"]) ++
          ["paginated records", "selected list page"] := by
  intro messages
  split
  case h_1 reason asked =>
    have reported := events_of_toQuery_error asked records
    refine ⟨select_of_toQuery_error asked records, reported, ?_⟩
    unfold messages
    rw [reported]
    rfl
  case h_2 q asked =>
    intro kept
    have reported := events_of_toQuery_ok asked records
    rw [Selection.run_events (page_of_toQuery_ok asked), Query.count_eq_length_filter] at reported
    refine ⟨_, select_of_toQuery_ok asked records, Query.count_eq_length_filter _ _ _, ?_⟩
    intro stages
    constructor
    · unfold stages
      rw [reported, Query.count_eq_length_filter]
    · unfold messages
      rw [reported, ← messages_sortReport]
      simp only [List.map_append, List.map_map, apply_ite (List.map _), List.append_assoc]
      rfl

end ListRequest

end RecordQuery
