import Mathlib.Data.List.Forall2

/-!
Lists of results. A function that can fail, applied to every element of a list with `List.mapM`,
gives a list exactly if it succeeds on each element, and then the results are those of the elements
in turn. Otherwise it fails as it does on the first element on which it fails. The same holds of a
fold with a step that can fail (`foldlM_eq_error_iff`).
-/

namespace RecordQuery

variable {α : Type u} {β : Type v} {ε : Type w} {f : α → Except ε β} {xs : List α}

theorem bind_eq_ok_iff {γ : Type u} {x : Except ε α} {next : α → Except ε γ} {z : γ} :
    x >>= next = .ok z ↔ ∃ a, x = .ok a ∧ next a = .ok z := by
  cases x with
  | error e =>
    constructor
    · intro ok
      cases ok
    · rintro ⟨_, found, -⟩
      cases found
  | ok a =>
    constructor
    · exact fun ok => ⟨a, rfl, ok⟩
    · rintro ⟨_, found, ok⟩
      cases found
      exact ok

theorem bind_eq_error_iff {γ : Type u} {x : Except ε α} {next : α → Except ε γ} {e : ε} :
    x >>= next = .error e ↔ x = .error e ∨ ∃ a, x = .ok a ∧ next a = .error e := by
  cases x with
  | error e' =>
    constructor
    · intro failed
      cases failed
      exact .inl rfl
    · rintro (failed | ⟨_, found, -⟩)
      · cases failed
        rfl
      · cases found
  | ok a =>
    constructor
    · exact fun failed => .inr ⟨a, rfl, failed⟩
    · rintro (failed | ⟨_, found, failed⟩)
      · cases failed
      · cases found
        exact failed

theorem map_eq_ok_iff {γ : Type u} {x : Except ε α} {g : α → γ} {z : γ} :
    x.map g = .ok z ↔ ∃ a, x = .ok a ∧ g a = z := by
  cases x with
  | error e => exact iff_of_false nofun fun ⟨_, found, _⟩ => nomatch found
  | ok a =>
    constructor
    · exact fun ok => ⟨a, rfl, Except.ok.inj ok⟩
    · rintro ⟨_, ⟨⟩, rfl⟩
      rfl

theorem map_eq_error_iff {γ : Type u} {x : Except ε α} {g : α → γ} {e : ε} :
    x.map g = .error e ↔ x = .error e := by
  cases x with
  | error e' =>
    rw [Except.error.injEq]
    exact ⟨Except.error.inj, congrArg Except.error⟩
  | ok a => exact iff_of_false nofun nofun

theorem elim_eq_ok_iff {x : Option α} {e : ε} {g : α → β} {z : β} :
    x.elim (Except.error e) (fun a => .ok (g a)) = .ok z ↔ ∃ a, x = some a ∧ g a = z := by
  cases x with
  | none => exact iff_of_false nofun fun ⟨_, found, _⟩ => nomatch found
  | some a =>
    constructor
    · exact fun ok => ⟨a, rfl, Except.ok.inj ok⟩
    · rintro ⟨_, ⟨⟩, rfl⟩
      rfl

theorem elim_eq_error_iff {x : Option α} {e e' : ε} {g : α → β} :
    x.elim (Except.error e) (fun a => .ok (g a)) = .error e' ↔ x = none ∧ e = e' := by
  cases x with
  | none => exact ⟨fun same => ⟨rfl, Except.error.inj same⟩, fun ⟨_, same⟩ => congrArg _ same⟩
  | some a => exact iff_of_false nofun fun ⟨missing, _⟩ => nomatch missing

/-- A fold that fails does so at the first element on which a step fails. -/
theorem foldlM_eq_error_iff {γ : Type u} {step : α → γ → Except ε α} {xs : List γ} {a : α} {e : ε} :
    xs.foldlM step a = .error e ↔
      ∃ before x after b, xs = before ++ x :: after ∧ before.foldlM step a = .ok b ∧
        step b x = .error e := by
  constructor
  · intro failed
    induction xs generalizing a with
    | nil => cases failed
    | cons x xs ih =>
      rw [List.foldlM_cons, bind_eq_error_iff] at failed
      rcases failed with first | ⟨b, first, rest⟩
      · exact ⟨[], x, xs, a, rfl, rfl, first⟩
      · obtain ⟨before, y, after, c, rfl, ok, there⟩ := ih rest
        refine ⟨x :: before, y, after, c, rfl, ?_, there⟩
        rw [List.foldlM_cons, first]
        exact ok
  · rintro ⟨before, x, after, b, rfl, ok, failed⟩
    rw [List.foldlM_append, ok]
    exact bind_eq_error_iff.2 (.inr ⟨b, rfl, bind_eq_error_iff.2 (.inl failed)⟩)

theorem mapM_eq_ok_iff {ys : List β} :
    xs.mapM f = .ok ys ↔ List.Forall₂ (fun x y => f x = .ok y) xs ys := by
  induction xs generalizing ys with
  | nil =>
    rw [List.forall₂_nil_left_iff, List.mapM_nil]
    exact ⟨fun ok => (Except.ok.inj ok).symm, congrArg Except.ok ∘ Eq.symm⟩
  | cons x xs ih =>
    rw [List.mapM_cons, List.forall₂_cons_left_iff]
    constructor
    · intro ok
      cases first : f x with
      | error e =>
        rw [first] at ok
        cases ok
      | ok y =>
        cases rest : xs.mapM f with
        | error e =>
          rw [first, rest] at ok
          cases ok
        | ok zs =>
          rw [first, rest] at ok
          exact ⟨y, zs, rfl, ih.1 rest, (Except.ok.inj ok).symm⟩
    · rintro ⟨y, zs, first, rest, rfl⟩
      rw [first, ih.2 rest]
      rfl

theorem mapM_eq_ok_map {g : α → β} (ok : ∀ x ∈ xs, f x = .ok (g x)) :
    xs.mapM f = .ok (xs.map g) := by
  rw [mapM_eq_ok_iff, List.forall₂_map_right_iff]
  exact List.forall₂_same.2 ok

theorem exists_of_mem_of_forall₂ {R : α → β → Prop} {ys : List β} (pairs : List.Forall₂ R xs ys)
    {x : α} (mem : x ∈ xs) : ∃ y ∈ ys, R x y := by
  induction pairs with
  | nil => exact absurd mem List.not_mem_nil
  | cons first _ ih =>
    rcases List.mem_cons.1 mem with rfl | memRest
    · exact ⟨_, List.mem_cons_self, first⟩
    · obtain ⟨y, memY, related⟩ := ih memRest
      exact ⟨y, List.mem_cons_of_mem _ memY, related⟩

theorem exists_of_mem_of_mapM_eq_ok {ys : List β} (ok : xs.mapM f = .ok ys) {y : β} (mem : y ∈ ys) :
    ∃ x ∈ xs, f x = .ok y :=
  exists_of_mem_of_forall₂ (mapM_eq_ok_iff.1 ok).flip mem

/-- A failure is that of the first element on which the function fails. -/
theorem exists_of_mapM_eq_error {e : ε} (failed : xs.mapM f = .error e) :
    ∃ before x after, xs = before ++ x :: after ∧ (∀ b ∈ before, ∃ y, f b = .ok y) ∧
      f x = .error e := by
  induction xs with
  | nil => cases failed
  | cons x xs ih =>
    rw [List.mapM_cons] at failed
    cases first : f x with
    | error e' =>
      rw [first] at failed
      cases failed
      exact ⟨[], x, xs, rfl, fun _ mem => absurd mem List.not_mem_nil, first⟩
    | ok y =>
      cases rest : xs.mapM f with
      | error e' =>
        rw [first, rest] at failed
        cases failed
        obtain ⟨before, z, after, rfl, good, fails⟩ := ih rest
        exact ⟨x :: before, z, after, rfl, List.forall_mem_cons.2 ⟨⟨y, first⟩, good⟩, fails⟩
      | ok ys =>
        rw [first, rest] at failed
        cases failed

/-- A list of results fails exactly as its first element that fails. -/
theorem mapM_eq_error_iff {e : ε} :
    xs.mapM f = .error e ↔
      ∃ before x after, xs = before ++ x :: after ∧ (∀ b ∈ before, ∃ y, f b = .ok y) ∧ f x = .error e := by
  refine ⟨exists_of_mapM_eq_error, ?_⟩
  rintro ⟨before, x, after, rfl, good, fails⟩
  induction before with
  | nil =>
    rw [List.nil_append, List.mapM_cons, fails]
    rfl
  | cons b before ih =>
    obtain ⟨⟨y, first⟩, goodRest⟩ := List.forall_mem_cons.1 good
    rw [List.cons_append, List.mapM_cons, first, ih goodRest]
    rfl

end RecordQuery
