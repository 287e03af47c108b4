import RecordQuery.Catalog.Cluster
import RecordQuery.Catalog.Deployment
import RecordQuery.Listing.Request
import RecordQuery.Proofs.TimestampWriting
import RecordQuery.Proofs.WireMembers

/-!
Records and requests on the wire. Each member of a structure is read as it was written: texts, numbers of 32
bits, states by their labels, the labels of clusters under their keys, and the times of deployments in the
free form of timestamps, whatever the year. So are the structures made of them, also if a sender leaves out
members that hold their default (`ofWire?_abridged_toWire`). Only a time that no clock shows, with a full
second of nanoseconds before the end of a minute, is read as the next second (`Deployment.asRead`).
-/

namespace RecordQuery

open Wire

/-! ## Members -/

theorem Wire.readsBack_text (default : String) : ReadsBack default Wire.text Wire.string? :=
  .of_leaf (fun _ _ => nofun) rfl fun _ => rfl

theorem Wire.readsBack_int32 (default : Int32) : ReadsBack default Wire.ofInt32 Wire.int32? := by
  refine .of_leaf (fun _ _ => nofun) rfl fun n => ?_
  rw [ofInt32, int32?, if_pos ⟨n.minValue_le_toInt, n.toInt_le⟩, Int32.ofInt_toInt]
  rfl

theorem State.readsBack : ReadsBack .unknown State.toWire State.ofWire? := by
  refine .of_leaf (fun _ _ => nofun) rfl fun s => ?_
  cases s <;> decide +kernel

theorem Deployment.readsAs_time :
    ReadsAs none timeToWire timeOfWire? (Option.map Instant.asRead) := by
  refine .of_leaf (fun t _ => ?_) rfl fun t => ?_
  · cases t <;> exact nofun
  · cases t with
    | none => rfl
    | some t =>
      change (Lenient.read? (String.ofList (t.toText .letter)).toList).map some = some (some t.asRead)
      rw [String.toList_ofList, Lenient.read?_toText, Option.map_some]

/-! ## Labels -/

namespace Labels

variable {key value : String} {entries : List (String × String)}

theorem insertEntry_perm (isNew : key ∉ entries.map Prod.fst) :
    (insertEntry key value entries).Perm ((key, value) :: entries) := by
  induction entries with
  | nil => exact .refl _
  | cons head entries ih =>
    obtain ⟨k, v⟩ := head
    rw [List.map_cons, List.mem_cons, not_or] at isNew
    obtain ⟨other, isNewRest⟩ := isNew
    unfold insertEntry
    split_ifs with before behind
    · exact .refl _
    · exact ((ih isNewRest).cons _).trans (.swap _ _ _)
    · exact absurd (String.le_antisymm behind before) other

/-- Labels that are put in one by one are all there, if their keys are distinct. -/
theorem foldl_insert_perm (l : Labels) (distinct : (entries.map Prod.fst).Nodup)
    (isNew : ∀ key ∈ entries.map Prod.fst, key ∉ l.entries.map Prod.fst) :
    (entries.foldl (fun l e => l.insert e.1 e.2) l).entries.Perm (entries ++ l.entries) := by
  induction entries generalizing l with
  | nil => exact .refl _
  | cons head entries ih =>
    obtain ⟨headNew, distinctRest⟩ := List.nodup_cons.1 distinct
    obtain ⟨headNewHere, restNew⟩ := List.forall_mem_cons.1 isNew
    have inserted : (l.insert head.1 head.2).entries.Perm (head :: l.entries) :=
      insertEntry_perm headNewHere
    have stillNew : ∀ key ∈ entries.map Prod.fst,
        key ∉ (l.insert head.1 head.2).entries.map Prod.fst := by
      intro key mem there
      rcases List.mem_cons.1 ((inserted.map Prod.fst).mem_iff.1 there) with rfl | before
      · exact headNew mem
      · exact restNew key mem before
    have rest := ih (l.insert head.1 head.2) distinctRest stillNew
    exact rest.trans ((inserted.append_left entries).trans List.perm_middle)

/-- Labels are told apart by their entries, in whatever order. -/
theorem eq_of_perm {l l' : Labels} (perm : l.entries.Perm l'.entries) : l = l' := by
  obtain ⟨entries, sorted⟩ := l
  obtain ⟨entries', sorted'⟩ := l'
  have same : entries = entries' := by
    refine List.Perm.eq_of_pairwise (fun a b _ _ before behind => ?_) sorted sorted' perm
    exact absurd (String.lt_trans before behind) (String.lt_irrefl _)
  subst same
  rfl

theorem ofList_of_perm {l : Labels} (perm : entries.Perm l.entries) : ofList entries = l := by
  have distinct : (l.entries.map Prod.fst).Nodup := by
    rw [List.Nodup, List.pairwise_map]
    exact l.sorted.imp fun before => String.ne_of_lt before
  have inserted := foldl_insert_perm empty
    ((perm.map Prod.fst).nodup_iff.2 distinct) fun _ _ => List.not_mem_nil
  rw [show empty.entries = [] from rfl, List.append_nil] at inserted
  exact eq_of_perm (inserted.trans perm)

theorem ofWire?_of_entries {entries : List (String × String)} :
    ofWire? (.object (entries.map fun e => (e.1, .text e.2))) = some (ofList entries) := by
  have read : (entries.map fun e => (e.1, Wire.text e.2)).mapM entryOfWire? = some entries := by
    rw [List.mapM_map]
    exact List.mapM_pure.trans (congrArg some (List.map_id entries))
  rw [ofWire?, read, Option.map_some]

/-- No label has a default of its own, so none is left out on the wire, and only their order is open. -/
theorem readsBack : ReadsBack .empty Labels.toWire Labels.ofWire? := by
  refine ⟨rfl, fun l w abridged => ?_⟩
  have leaves : ∀ e ∈ l.entries.map fun e => (e.1, Wire.text e.2), ∀ inner, e.2 ≠ .object inner := by
    rw [List.forall_mem_map]
    exact fun _ _ _ => nofun
  obtain ⟨members, rfl, perm⟩ := Abridged.perm_of_leaves leaves abridged
  have written : Relation.Comp (fun s es => s = List.map (fun e => (e.1, Wire.text e.2)) es) List.Perm
      members l.entries := by
    rw [List.eq_map_comp_perm]
    exact perm
  obtain ⟨entries, rfl, among⟩ := written
  rw [ofWire?_of_entries, ofList_of_perm among]
  rfl

end Labels

/-! ## Structures -/

theorem DeploymentStatus.readsBack : ReadsBack {} toWire ofWire? := by
  refine ⟨rfl, fun s w abridged => ?_⟩
  obtain ⟨member, found, reads⟩ := exists_members? ["state", "message"] abridged rfl (by decide)
  have state := reads "state" s.state State.readsBack rfl rfl
  have message := reads "message" s.message (readsBack_text "") rfl rfl
  simp only [ofWire?, found, state, message, Option.bind_eq_bind, Option.bind_some, Option.pure_def, id_eq]

/-- The deployment that is read from the wire form of one: the same, with its time as a clock shows it. -/
def Deployment.asRead (d : Deployment) : Deployment :=
  { d with createTime := d.createTime.map Instant.asRead }

theorem Deployment.asRead_eq_self_iff {d : Deployment} :
    d.asRead = d ↔ ∀ t ∈ d.createTime, t.OnClock := by
  have sameTime : d.asRead = d ↔ d.createTime.map Instant.asRead = d.createTime := by
    constructor
    · exact congrArg createTime
    · intro same
      rw [asRead, same]
  rw [sameTime]
  cases d.createTime with
  | none => simp
  | some t => simp [Instant.asRead_eq_self_iff]

theorem Deployment.readsAs : ReadsAs {} toWire ofWire? asRead := by
  refine ⟨rfl, fun d w abridged => ?_⟩
  obtain ⟨member, found, reads⟩ := exists_members?
    ["name", "displayName", "appName", "appVersion", "deployId", "status", "createTime"] abridged rfl
    (by decide)
  have name := reads "name" d.name (readsBack_text "") rfl rfl
  have displayName := reads "displayName" d.displayName (readsBack_text "") rfl rfl
  have appName := reads "appName" d.appName (readsBack_text "") rfl rfl
  have appVersion := reads "appVersion" d.appVersion (readsBack_text "") rfl rfl
  have deployId := reads "deployId" d.deployId (readsBack_text "") rfl rfl
  have status := reads "status" d.status DeploymentStatus.readsBack rfl rfl
  have createTime := reads "createTime" d.createTime readsAs_time rfl rfl
  simp only [ofWire?, found, name, displayName, appName, appVersion, deployId, status, createTime,
    Option.bind_eq_bind, Option.bind_some, Option.pure_def, id_eq]
  rfl

theorem ClusterStatus.readsBack : ReadsBack {} toWire ofWire? := by
  refine ⟨rfl, fun s w abridged => ?_⟩
  obtain ⟨member, found, reads⟩ := exists_members? ["state"] abridged rfl (by decide)
  have state := reads "state" s.state State.readsBack rfl rfl
  simp only [ofWire?, found, state, Option.bind_eq_bind, Option.bind_some, Option.pure_def, id_eq]

theorem Cluster.readsBack : ReadsBack {} toWire ofWire? := by
  refine ⟨rfl, fun c w abridged => ?_⟩
  obtain ⟨member, found, reads⟩ := exists_members? ["id", "name", "status"] abridged rfl (by decide)
  have id := reads "id" c.id (readsBack_text "") rfl rfl
  have name := reads "name" c.name (readsBack_text "") rfl rfl
  have status := reads "status" c.status ClusterStatus.readsBack rfl rfl
  simp only [ofWire?, found, id, name, status, Option.bind_eq_bind, Option.bind_some,
    Option.pure_def, id_eq]

theorem ClusterInfo.readsBack : ReadsBack {} toWire ofWire? := by
  refine ⟨rfl, fun c w abridged => ?_⟩
  obtain ⟨member, found, reads⟩ := exists_members? ["id", "name", "labels"] abridged rfl (by decide)
  have id := reads "id" c.id (readsBack_text "") rfl rfl
  have name := reads "name" c.name (readsBack_text "") rfl rfl
  have labels := reads "labels" c.labels Labels.readsBack rfl rfl
  simp only [ofWire?, found, id, name, labels, Option.bind_eq_bind, Option.bind_some,
    Option.pure_def, id_eq]

theorem ListOptions.readsBack : ReadsBack {} toWire ofWire? := by
  refine ⟨rfl, fun o w abridged => ?_⟩
  obtain ⟨member, found, reads⟩ := exists_members? ["defaultPageSize"] abridged rfl (by decide)
  have defaultPageSize := reads "defaultPageSize" o.defaultPageSize (readsBack_int32 20) rfl rfl
  simp only [ofWire?, found, defaultPageSize, Option.bind_eq_bind, Option.bind_some,
    Option.pure_def, id_eq]

theorem ListRequest.readsBack : ReadsBack {} toWire ofWire? := by
  refine ⟨rfl, fun r w abridged => ?_⟩
  obtain ⟨member, found, reads⟩ := exists_members? ["pageSize", "offset", "orderBy", "filter"] abridged
    rfl (by decide)
  have pageSize := reads "pageSize" r.pageSize (readsBack_int32 0) rfl rfl
  have offset := reads "offset" r.offset (readsBack_int32 0) rfl rfl
  have orderBy := reads "orderBy" r.orderBy (readsBack_text "") rfl rfl
  have filter := reads "filter" r.filter (readsBack_text "") rfl rfl
  simp only [ofWire?, found, pageSize, offset, orderBy, filter, Option.bind_eq_bind,
    Option.bind_some, Option.pure_def, id_eq]

/-! ## Records and requests -/

/-- Records, requests and options are read from their wire forms as they are, and also if members that hold
their default are left out of them, at any depth, and with the members in any order. A deployment is read as it
is exactly if its time, where it has one, is on the clock, and else with the next second for its time. -/
theorem ofWire?_abridged_toWire :
    (∀ d : Deployment, Deployment.ofWire? d.toWire = some d.asRead ∧
      (∀ w, Abridged ({} : Deployment).toWire d.toWire w → Deployment.ofWire? w = some d.asRead) ∧
      (d.asRead = d ↔ ∀ t ∈ d.createTime, t.OnClock)) ∧
    (∀ c : Cluster, Cluster.ofWire? c.toWire = some c ∧
      ∀ w, Abridged ({} : Cluster).toWire c.toWire w → Cluster.ofWire? w = some c) ∧
    (∀ c : ClusterInfo, ClusterInfo.ofWire? c.toWire = some c ∧
      ∀ w, Abridged ({} : ClusterInfo).toWire c.toWire w → ClusterInfo.ofWire? w = some c) ∧
    (∀ r : ListRequest, ListRequest.ofWire? r.toWire = some r ∧
      ∀ w, Abridged ({} : ListRequest).toWire r.toWire w → ListRequest.ofWire? w = some r) ∧
    ∀ o : ListOptions, ListOptions.ofWire? o.toWire = some o ∧
      ∀ w, Abridged ({} : ListOptions).toWire o.toWire w → ListOptions.ofWire? w = some o := by
  have both {α : Type} {default : α} {toWire : α → Wire} {read? : Wire → Option α}
      (reads : ReadsBack default toWire read?) (x : α) :
      read? (toWire x) = some x ∧
        ∀ w, Abridged (toWire default) (toWire x) w → read? w = some x :=
    ⟨reads.read?_eq x (toWire x) (.whole _ _), reads.read?_eq x⟩
  refine ⟨fun d => ⟨?_, Deployment.readsAs.read?_eq d, Deployment.asRead_eq_self_iff⟩,
    both Cluster.readsBack, both ClusterInfo.readsBack, both ListRequest.readsBack,
    both ListOptions.readsBack⟩
  exact Deployment.readsAs.read?_eq d d.toWire (.whole _ _)

/-- A deployment made in a leap second before the year 0, with half of its status left out; labels in another
order; and requests and options of which only what is not their default is left. -/
theorem ofWire?_abridged_toWire_of_leap_second :
    let made : Instant := ⟨-62167219201, 1500000000, by decide⟩
    let d : Deployment := { name := "web", status := { state := .running }, createTime := some made }
    let w : Wire := .object [("status", .object [("state", .text "RUNNING")]), ("name", .text "web"),
      ("createTime", .text "-0001-12-31T23:59:60.500Z")]
    let labels : Labels := .ofList [("tier", "gold"), ("region", "eu")]
    let r : ListRequest := { offset := 40, filter := "name=web*" }
    (Abridged ({} : Deployment).toWire d.toWire w ∧ Deployment.ofWire? w = some d) ∧
    Cluster.ofWire? (.object [("name", .text "edge")]) = some { name := "edge" } ∧
    ClusterInfo.ofWire? (.object [("labels", .object [("tier", .text "gold"), ("region", .text "eu")])]) =
      some { labels } ∧
    ListRequest.ofWire? (.object [("offset", .integer 40), ("filter", .text "name=web*")]) = some r ∧
    ListOptions.ofWire? (.object []) = some {} := by
  intro made d w labels r
  obtain ⟨deployments, clusters, infos, requests, options⟩ := ofWire?_abridged_toWire
  have time : Deployment.timeToWire (some made) = .text "-0001-12-31T23:59:60.500Z" := by
    have text : made.toText .letter = "-0001-12-31T23:59:60.500Z".toList := by decide +kernel
    rw [Deployment.timeToWire, Option.elim_some, text, String.ofList_toList]
  have status : Abridged ({} : DeploymentStatus).toWire d.status.toWire
      (.object [("state", .text "RUNNING")]) :=
    .keep (.whole _ _) (.leave rfl (.whole _ _))
  have inOrder : Abridged ({} : Deployment).toWire d.toWire (.object
      [("name", .text "web"), ("status", .object [("state", .text "RUNNING")]),
        ("createTime", .text "-0001-12-31T23:59:60.500Z")]) := by
    rw [← time]
    exact .keep (.whole _ _) (.leave rfl (.leave rfl (.leave rfl (.leave rfl
      (.keep status (.keep (.whole _ _) (.whole _ _)))))))
  have abridged := inOrder.reorder (.swap _ _ _)
  obtain ⟨-, reads, same⟩ := deployments d
  have onClock : d.asRead = d := same.2 (by decide +kernel)
  refine ⟨⟨abridged, (reads w abridged).trans (congrArg some onClock)⟩, (clusters { name := "edge" }).2 _ ?_,
    (infos { labels }).2 _ ?_, (requests r).2 _ ?_, (options {}).2 _ ?_⟩
  · exact .leave rfl (.keep (.whole _ _) (.leave rfl (.whole _ _)))
  · have entries : labels.entries = [("region", "eu"), ("tier", "gold")] := by decide +kernel
    have inOrder : labels.toWire = .object [("region", .text "eu"), ("tier", .text "gold")] := by
      rw [Labels.toWire, entries]
      rfl
    have anyOrder (base : Wire) : Abridged base labels.toWire
        (.object [("tier", .text "gold"), ("region", .text "eu")]) := by
      rw [inOrder]
      exact .reorder (.whole _ _) (.swap _ _ _)
    exact .leave rfl (.leave rfl (.keep (anyOrder _) (.whole _ _)))
  · exact .leave rfl (.keep (.whole _ _) (.leave rfl (.keep (.whole _ _) (.whole _ _))))
  · exact .leave rfl (.whole _ _)

/-- A time of a second and a half after the second 10 is read as half a second after the second 11. -/
theorem exists_deployment_read_with_next_second :
    let d : Deployment := { createTime := some ⟨10, 1500000000, by decide⟩ }
    Deployment.timeToWire d.createTime = .text "1970-01-01T00:00:11.500Z" ∧
      Deployment.ofWire? d.toWire = some { createTime := some ⟨11, 500000000, by decide⟩ } ∧
      Deployment.ofWire? d.toWire ≠ some d := by
  intro d
  have text : (⟨10, 1500000000, by decide⟩ : Instant).toText .letter = "1970-01-01T00:00:11.500Z".toList := by
    decide +kernel
  have time : Deployment.timeToWire d.createTime = .text "1970-01-01T00:00:11.500Z" := by
    rw [Deployment.timeToWire, Option.elim_some, text, String.ofList_toList]
  have read : Deployment.ofWire? d.toWire = some { createTime := some ⟨11, 500000000, by decide⟩ } := by
    rw [Deployment.toWire, time]
    decide +kernel
  refine ⟨time, read, ?_⟩
  rw [read]
  decide

end RecordQuery
