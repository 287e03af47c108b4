import RecordQuery.Catalog.Cluster
import RecordQuery.Listing.Answer
import RecordQuery.Proofs.PageWindow
import RecordQuery.Proofs.StageOrder

/-!
What list requests are answered with. `ListRequest.select_eq_query_unless_refused` says for which
requests there is no page and what the page of all others holds, in terms of the query that the
request stands for. `ListRequest.flatMap_pages` says that the pages of a list, asked for one after
the other, make up the list.
-/

namespace RecordQuery

variable {ρ : Type u} {access : Accessor ρ}

/-! ## Selections of a query -/

namespace Query

theorem select_onPage (q : Query) (p : Page) (access : Accessor ρ) (records : List ρ) :
    (q.onPage p).select access records =
      p.window ({ q with page := none : Query }.select access records) :=
  rfl

/-- Without a page, a query selects the records that pass its filter. -/
theorem select_perm_filter {q : Query} (allPages : q.page = none) (access : Accessor ρ)
    (records : List ρ) :
    (q.select access records).Perm (records.filter (q.accepts access)) := by
  have sorted := Selection.sort_records_perm q access
    ((Selection.ofRecords records).filter q access)
  rw [Selection.filter_records] at sorted
  unfold Query.select Selection.run Selection.paginate
  rw [allPages]
  exact sorted

theorem count_eq_length_filter (q : Query) (access : Accessor ρ) (records : List ρ) :
    q.count access records = (records.filter (q.accepts access)).length :=
  List.countP_eq_length_filter

theorem length_select {q : Query} (allPages : q.page = none) (access : Accessor ρ)
    (records : List ρ) : (q.select access records).length = q.count access records := by
  rw [count_eq_length_filter]
  exact (select_perm_filter allPages access records).length_eq

end Query

/-! ## Answers -/

namespace ListRequest

variable [Queryable ρ]

theorem toQuery_eq_ok {r : ListRequest} {options : ListOptions} {sorting : Sorting}
    {filter : Filter} (valid : (r.page options).check = .ok ())
    (sorts : Sorting.ofText r.orderBy = .ok sorting)
    (filters : Filter.ofText r.filter = .ok filter) :
    r.toQuery options = .ok { filter, sorting, page := some (r.page options) } := by
  unfold toQuery
  rw [valid, sorts, filters]
  rfl

theorem select_of_toQuery_error {r : ListRequest} {options : ListOptions} {reason : Rejection}
    (refused : r.toQuery options = .error reason) (records : List ρ) :
    r.select options records = .error reason := by
  unfold select answer
  rw [refused]

theorem select_of_toQuery_ok {r : ListRequest} {options : ListOptions} {q : Query}
    (asked : r.toQuery options = .ok q) (records : List ρ) :
    r.select options records = .ok {
      items := q.select Queryable.access records
      totalElements := q.count Queryable.access records } := by
  unfold select answer
  rw [asked, Query.count_eq_length_filter]
  simp only [Selection.filter_records, Selection.ofRecords]
  rfl

/-- A request is refused because of its page, or else because of its order, or else because of its
filter, and answered in all other cases. The answer is what the query of the request selects and
counts, and the page is full unless the list ends on it. -/
theorem select_eq_query_unless_refused (r : ListRequest) (options : ListOptions)
    (records : List ρ) :
    let size := (if r.pageSize = 0 then options.defaultPageSize else r.pageSize).toInt
    let offset := r.offset.toInt
    match Page.check ⟨size, offset⟩, Sorting.ofText r.orderBy, Filter.ofText r.filter with
    | .error reason, _, _ => r.select options records = .error reason
    | .ok (), .error reason, _ => r.select options records = .error reason
    | .ok (), .ok _, .error reason => r.select options records = .error reason
    | .ok (), .ok _, .ok _ =>
      ∃ (query : Query) (page : ListPage ρ),
        r.toQuery options = .ok query ∧ r.select options records = .ok page ∧
        page.items = query.select Queryable.access records ∧
        page.totalElements = query.count Queryable.access records ∧
        page.totalElements = (records.filter (query.accepts Queryable.access)).length ∧
        (page.items.length : Int) = min size (max 0 (page.totalElements - offset)) := by
  intro size offset
  have effective : r.page options = ⟨size, offset⟩ := rfl
  rw [← effective]
  split
  case h_1 reason invalid =>
    apply select_of_toQuery_error
    unfold toQuery
    rw [invalid]
    rfl
  case h_2 reason valid unsorted =>
    apply select_of_toQuery_error
    unfold toQuery
    rw [valid, unsorted]
    rfl
  case h_3 sorting reason valid sorts unfiltered =>
    apply select_of_toQuery_error
    unfold toQuery
    rw [valid, sorts, unfiltered]
    rfl
  case h_4 sorting filter valid sorts filters =>
    have asked := toQuery_eq_ok valid sorts filters
    obtain ⟨sizeNonneg, -, offsetNonneg⟩ := Page.check_eq_ok_iff.1 valid
    refine ⟨_, _, asked, select_of_toQuery_ok asked records, rfl, rfl,
      Query.count_eq_length_filter _ _ _, ?_⟩
    have whole := Query.length_select (q := { filter, sorting }) rfl Queryable.access records
    have window := Page.length_window sizeNonneg offsetNonneg
      (Query.select { filter, sorting } Queryable.access records)
    rw [whole] at window
    exact window

/-! ## All pages of a list -/

/-- The request for the page of `size` records behind the first `offset` ones. -/
def atOffset (size : Int32) (orderBy filter : String) (offset : Nat) : ListRequest where
  pageSize := size
  offset := Int32.ofNat offset
  orderBy := orderBy
  filter := filter

theorem page_atOffset {size : Int32} {offset : Nat} (orderBy filter : String)
    (options : ListOptions) (pos : 1 ≤ size.toInt) (fits : offset ≤ Int32.maxValue.toInt) :
    (atOffset size orderBy filter offset).page options = ⟨size.toInt, offset⟩ := by
  have given : size ≠ 0 := by
    rintro rfl
    exact absurd pos (by decide)
  have maxValue : Int32.maxValue.toInt = 2 ^ 31 - 1 := by decide
  unfold page atOffset
  rw [if_neg given, Int32.toInt_ofNat_of_lt (by omega)]

/-- The pages of `size` records, asked for at every multiple of `size` below the number of records
that match, make up what the query selects without a page: the matching records, each once, in
order. All of them tell the same number of records. -/
theorem flatMap_pages {records : List ρ} {size : Int32} {orderBy filter : String}
    {sorting : Sorting} {predicates : Filter} (options : ListOptions)
    (fits : records.length ≤ Int32.maxValue.toInt) (pos : 1 ≤ size.toInt) (le : size.toInt ≤ 500)
    (sorts : Sorting.ofText orderBy = .ok sorting)
    (filters : Filter.ofText filter = .ok predicates) :
    let query : Query := { filter := predicates, sorting }
    let total := query.count Queryable.access records
    ∃ pages : List (ListPage ρ),
      ((Page.starts size.toInt.toNat total).mapM fun offset =>
        (atOffset size orderBy filter offset).select options records) = .ok pages ∧
      pages.flatMap ListPage.items = query.select Queryable.access records ∧
      (query.select Queryable.access records).Perm
        (records.filter (query.accepts Queryable.access)) ∧
      ∀ page ∈ pages, page.totalElements = total := by
  intro query total
  have totalLe : total ≤ records.length := by
    exact List.countP_le_length
  have answered (offset : Nat) (mem : offset ∈ Page.starts size.toInt.toNat total) :
      (atOffset size orderBy filter offset).select options records = .ok {
        items := ((query.select Queryable.access records).drop offset).take size.toInt.toNat
        totalElements := total } := by
    have below := List.mem_range.1 (List.mem_of_mem_filter mem)
    have fitsOffset : offset ≤ Int32.maxValue.toInt := by omega
    have effective := page_atOffset orderBy filter options pos fitsOffset
    have valid : ((atOffset size orderBy filter offset).page options).check = .ok () := by
      rw [effective]
      exact Page.check_eq_ok_iff.2 ⟨Int.le_trans (by decide) pos, le, Int.natCast_nonneg _⟩
    have window := Query.select_onPage query ⟨size.toInt, offset⟩ Queryable.access records
    rw [Page.window_eq_take_drop (Int.natCast_nonneg _)] at window
    have asked := toQuery_eq_ok valid sorts filters
    rw [effective] at asked
    rw [select_of_toQuery_ok asked]
    exact congrArg (fun items => Except.ok (ListPage.mk items total)) window
  refine ⟨_, mapM_eq_ok_map answered, ?_, Query.select_perm_filter rfl _ _, ?_⟩
  · rw [List.flatMap_map]
    have whole := Query.length_select (q := query) rfl Queryable.access records
    have pieces := Page.flatMap_starts (show 0 < size.toInt.toNat by omega)
      (query.select Queryable.access records)
    rw [whole] at pieces
    exact pieces
  · intro page mem
    obtain ⟨offset, -, rfl⟩ := List.mem_map.1 mem
    rfl

/-- Three of five clusters match, on two pages. The two that are equal in order stay as they are, and
the last page holds the third one. -/
theorem flatMap_pages_of_clusters :
    let web : Cluster := { id := "1", name := "web" }
    let other : Cluster := { id := "4", name := "Cache" }
    let web' : Cluster := { id := "5", name := "WEB" }
    let records := [web, { id := "2", name := "db" }, { id := "3", name := "queue" }, other, web']
    records.length ≤ Int32.maxValue.toInt ∧ 1 ≤ (2 : Int32).toInt ∧ (2 : Int32).toInt ≤ 500 ∧
      Sorting.ofText "name desc" = .ok ⟨[⟨"name", .descending⟩]⟩ ∧
      Filter.ofText "name=web OR name=*ch*" =
        .ok ⟨[⟨"name", .text "web"⟩, ⟨"name", .text "*ch*"⟩]⟩ ∧
      ∃ pages : List (ListPage Cluster),
        ([0, 2].mapM fun offset =>
          (atOffset 2 "name desc" "name=web OR name=*ch*" offset).select {} records) = .ok pages ∧
        pages.flatMap ListPage.items = [web, web', other] ∧
        ∀ page ∈ pages, page.totalElements = 3 := by
  intro web other web' records
  have fits : records.length ≤ Int32.maxValue.toInt := by decide
  have pos : 1 ≤ (2 : Int32).toInt := by decide
  have le : (2 : Int32).toInt ≤ 500 := by decide
  have sorts : Sorting.ofText "name desc" = .ok ⟨[⟨"name", .descending⟩]⟩ := by
    with_unfolding_all rfl
  have filters : Filter.ofText "name=web OR name=*ch*" =
      .ok ⟨[⟨"name", .text "web"⟩, ⟨"name", .text "*ch*"⟩]⟩ := by
    with_unfolding_all rfl
  let query : Query := {
    filter := ⟨[⟨"name", .text "web"⟩, ⟨"name", .text "*ch*"⟩]⟩
    sorting := ⟨[⟨"name", .descending⟩]⟩ }
  have total : query.count Queryable.access records = 3 := by decide +kernel
  have starts : Page.starts (2 : Int32).toInt.toNat 3 = [0, 2] := by decide +kernel
  have selected : query.select Queryable.access records = [web, web', other] := by decide +kernel
  obtain ⟨pages, answered, items, -, totals⟩ := flatMap_pages {} fits pos le sorts filters
  rw [total] at answered totals
  rw [starts] at answered
  exact ⟨fits, pos, le, sorts, filters, pages, answered, items.trans selected, totals⟩

end ListRequest

end RecordQuery
