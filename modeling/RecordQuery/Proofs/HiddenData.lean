import RecordQuery.Catalog.Cluster
import RecordQuery.Catalog.Deployment
import RecordQuery.Proofs.DeclaredLayout
import RecordQuery.Proofs.FilterMeaning
import RecordQuery.Proofs.ListAnswer
import RecordQuery.Proofs.SelectionPlaces

/-!
What a selection knows of its records. A query reads the fields that it names (`Query.fields`), and two
lists of records that agree on these fields, place by place, are selected from alike
(`Query.selectsAlike_of_agreeOn`), even if their records are of different types.

So whatever queries may not name stays hidden, whoever asks and in whatever way: no list request tells
records apart that differ only in members without a query field (`selection_reads_named_fields`).
-/

namespace RecordQuery

variable {ρ : Type u} {σ : Type v}

/-- Two lists of records have the same values under some fields, place by place. -/
def AgreeOn (fields : List String) (access : Accessor ρ) (access' : Accessor σ) :
    List ρ → List σ → Prop :=
  List.Forall₂ fun r r' => ∀ field ∈ fields, access r field = access' r' field

theorem Predicate.holds_congr {p : Predicate} {field field' : String → Option Value}
    (same : field p.field = field' p.field) : p.Holds field ↔ p.Holds field' := by
  unfold Holds
  rw [same]

namespace Query

variable {q : Query}

/-- Two accessors that agree on the fields of a query are alike for it. -/
theorem alike_of_fields {access access' : Accessor ρ}
    (same : ∀ r, ∀ field ∈ q.fields, access r field = access' r field) (records : List ρ) :
    q.Alike q access access' records := by
  have underKey (r : ρ) : ∀ key ∈ q.sorting.keys, access r key.field = access' r key.field :=
    (forall_mem_fields.1 (same r)).2
  refine ⟨fun r _ => ?_, rfl, fun key mem r _ => ?_, fun key mem a _ b _ => ?_, rfl⟩
  · rw [Bool.eq_iff_iff, accepts, accepts, Filter.matcher_accepts_iff_holds,
      Filter.matcher_accepts_iff_holds]
    refine or_congr_right (exists_congr fun p => and_congr_right fun mem => ?_)
    exact Predicate.holds_congr ((forall_mem_fields.1 (same r)).1 p mem)
  · rw [underKey r key mem]
  · rw [SortKey.order, SortKey.order, underKey a key mem, underKey b key mem]

theorem selectsAlike_of_agreeOn {access : Accessor ρ} {access' : Accessor σ} {records : List ρ}
    {others : List σ} (agree : AgreeOn q.fields access access' records others) :
    q.SelectsAlike q access access' records others :=
  Alike.selectsAlike agree.length_eq (alike_of_fields (accessAt_of_forall₂ rfl agree) _)

end Query

/-! ## List requests -/

namespace ListRequest

/-- A request is answered alike for two lists: it is refused for one reason, or the pages hold the records
at the same places, and tell the same number of records. -/
def AnswersAlike [Queryable ρ] [Queryable σ] (r : ListRequest) (options : ListOptions)
    (records : List ρ) (others : List σ) : Prop :=
  match r.toQuery options with
  | .error reason =>
    r.select options records = .error reason ∧ r.select options others = .error reason
  | .ok q =>
    ∃ (page : ListPage ρ) (page' : ListPage σ),
      r.select options records = .ok page ∧ r.select options others = .ok page' ∧
      page.items.map some = (q.places Queryable.access records).map (records[·]?) ∧
      page'.items.map some = (q.places Queryable.access records).map (others[·]?) ∧
      page.totalElements = page'.totalElements

theorem answersAlike_of_forall_fields [Queryable ρ] [Queryable σ] {records : List ρ}
    {others : List σ}
    (agree : List.Forall₂ (fun a b => ∀ field, Queryable.access a field = Queryable.access b field)
      records others) (r : ListRequest) (options : ListOptions) :
    r.AnswersAlike options records others := by
  unfold AnswersAlike
  split
  case h_1 reason refused =>
    exact ⟨select_of_toQuery_error refused records, select_of_toQuery_error refused others⟩
  case h_2 q asked =>
    have onFields : AgreeOn q.fields Queryable.access Queryable.access records others :=
      agree.imp fun _ _ same field _ => same field
    have alike := Query.selectsAlike_of_agreeOn onFields
    exact ⟨_, _, select_of_toQuery_ok asked records, select_of_toQuery_ok asked others,
      alike.selected, alike.selected', alike.count⟩

/-- Members without a query field make no difference to any request. -/
theorem answersAlike_of_members [Record ρ] {records others : List ρ}
    (agree : List.Forall₂ (fun a b => ∀ field ∈ (Record.layout ρ).fields,
      Record.member a field.member = Record.member b field.member) records others)
    (r : ListRequest) (options : ListOptions) : r.AnswersAlike options records others :=
  answersAlike_of_forall_fields (agree.imp fun _ _ same => Layout.read_congr same) r options

end ListRequest

/-- A query selects from two lists alike, at the same places, if their records agree on the fields that
the query names. So no list request shows what is not in a query field: not in the fields of a declared
type that are to be skipped or have no kind, not in the labels of a cluster, and not in the message on a
deployment. -/
theorem selection_reads_named_fields :
    (∀ {ρ : Type u} {σ : Type v} (q : Query) (access : Accessor ρ) (access' : Accessor σ)
      (records : List ρ) (others : List σ), AgreeOn q.fields access access' records others →
      q.SelectsAlike q access access' records others) ∧
    (∀ {ρ : Type u} [Record ρ] (d : Declaration) (fields : List FieldDeclaration)
      (records others : List ρ), d.shape = .fields fields → d.layout = .ok (Record.layout ρ) →
      List.Forall₂ (fun a b => ∀ field ∈ fields, field.IsQueryable →
        Record.member a field.ident = Record.member b field.ident) records others →
      ∀ (r : ListRequest) (options : ListOptions), r.AnswersAlike options records others) ∧
    (∀ records others : List ClusterInfo,
      List.Forall₂ (fun a b => ∃ labels, b = { a with labels }) records others →
      ∀ (r : ListRequest) (options : ListOptions), r.AnswersAlike options records others) ∧
    ∀ records others : List Deployment,
      List.Forall₂ (fun a b => ∃ message, b = { a with status := { a.status with message } })
        records others →
      ∀ (r : ListRequest) (options : ListOptions), r.AnswersAlike options records others := by
  refine ⟨fun _ _ _ _ _ agree => Query.selectsAlike_of_agreeOn agree, ?_, ?_, ?_⟩
  · intro ρ _ d fields records others shape declared agree
    refine ListRequest.answersAlike_of_members (agree.imp fun a b same field mem => ?_)
    obtain ⟨stands, memStands, queryable, member⟩ :=
      Declaration.exists_of_mem_layout shape declared field mem
    rw [member]
    exact same stands memStands queryable
  · intro records others agree
    refine ListRequest.answersAlike_of_members (agree.imp ?_)
    rintro a _ ⟨labels, rfl⟩ field -
    rfl
  · intro records others agree
    refine ListRequest.answersAlike_of_members (agree.imp ?_)
    rintro a _ ⟨message, rfl⟩ field -
    rfl

/-- A query by name selects the same places from accounts with sizes and from their names alone. An
account hides its password and its notes, a cluster its labels, and a deployment its message. -/
theorem selection_reads_named_fields_of_accounts :
    let access : Accessor (String × Int64) := fun r field =>
      if field = "name" then some (.text r.1) else if field = "size" then some (.int r.2) else none
    let access' : Accessor String := fun name field =>
      if field = "name" then some (.text name) else none
    let q : Query := {
      filter := ⟨[⟨"name", .text "A"⟩]⟩
      sorting := ⟨[⟨"name", .descending⟩]⟩
      page := some ⟨2, 0⟩ }
    let accounts : List (String × Int64) := [("Ada", 3), ("Bo", 5), ("Cara", 1), ("dan", 0)]
    let names : List String := ["Ada", "Bo", "Cara", "dan"]
    let _ : Record (String × String × String) := {
      layout := ⟨[⟨"name", "name", .text⟩]⟩
      member := fun r ident =>
        if ident = "name" then .text r.1
        else if ident = "password" then .text r.2.1 else .text r.2.2 }
    let annotated (arguments : List String) : List Annotation :=
      [⟨"field", arguments.map fun argument => .path [argument]⟩]
    let fields : List FieldDeclaration :=
      [⟨"name", annotated ["Text"]⟩, ⟨"password", annotated ["Text", "skip"]⟩, ⟨"notes", []⟩]
    let eu : Labels := .ofList [("region", "eu")]
    let failed : DeploymentStatus := { state := .error, message := "no route" }
    (AgreeOn q.fields access access' accounts names ∧
      q.SelectsAlike q access access' accounts names ∧ q.places access accounts = [3, 2]) ∧
    (Declaration.layout ⟨[], .fields fields⟩ = .ok (Record.layout (String × String × String)) ∧
      ∀ (r : ListRequest) (options : ListOptions), r.AnswersAlike options
        [("Ada", "sesame", "likes tea"), ("Bo", "1234", "")] [("Ada", "", "left"), ("Bo", "12", "")]) ∧
    (∀ (r : ListRequest) (options : ListOptions), r.AnswersAlike options
      [({ id := "1", name := "one", labels := eu } : ClusterInfo)]
      [({ id := "1", name := "one" } : ClusterInfo)]) ∧
    ∀ (r : ListRequest) (options : ListOptions), r.AnswersAlike options
      [({ name := "web", status := failed } : Deployment)]
      [({ name := "web", status := .ofState .error } : Deployment)] := by
  intro access access' q accounts names _ annotated fields eu failed
  obtain ⟨named, declared, clusters, deployments⟩ := selection_reads_named_fields
  have agree : AgreeOn q.fields access access' accounts names := by
    have onName (name : String) (size : Int64) :
        ∀ field ∈ q.fields, access (name, size) field = access' name field := by
      intro field mem
      rcases List.mem_pair.1 mem with rfl | rfl <;> rfl
    exact .cons (onName _ _) (.cons (onName _ _) (.cons (onName _ _) (.cons (onName _ _) .nil)))
  have layout : Declaration.layout ⟨[], .fields fields⟩ =
      .ok (Record.layout (String × String × String)) := by
    decide +kernel
  refine ⟨⟨agree, named q access access' accounts names agree, by decide +kernel⟩,
    ⟨layout, declared _ fields _ _ rfl layout ?_⟩, clusters _ _ ?_, deployments _ _ ?_⟩
  · have password : FieldOptions.ofAnnotations (annotated ["Text", "skip"]) =
        .ok { kind := some .text, skip := true } := by
      decide
    have notes : FieldOptions.ofAnnotations [] = .ok {} := rfl
    have sameName (r r' : String × String × String) (same : r.1 = r'.1) :
        ∀ field ∈ fields, field.IsQueryable →
          Record.member r field.ident = Record.member r' field.ident := by
      rintro field mem ⟨options, given, shown, hasKind⟩
      simp only [fields, List.mem_cons, List.not_mem_nil, or_false] at mem
      obtain rfl | rfl | rfl := mem
      · exact congrArg Member.text same
      · cases password.symm.trans given
        cases shown
      · cases notes.symm.trans given
        cases hasKind
    exact .cons (sameName _ _ rfl) (.cons (sameName _ _ rfl) .nil)
  · exact .cons ⟨.empty, rfl⟩ .nil
  · exact .cons ⟨"", rfl⟩ .nil

end RecordQuery
