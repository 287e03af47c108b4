import RecordQuery.Wire.Basic
import Mathlib.Data.List.Nodup
import Mathlib.Data.List.Perm.Basic

/-!
Wire forms with members left out. A structure is written with all of its members, but a sender may leave out
those that hold their default, and the members of an object have no order: `Wire.Abridged` relates a wire form
to what may come in its place.

`Wire.ReadsBack` says of a type that its values are read from everything that may come in place of their wire
forms, and `Wire.ReadsAs` that others are read, by a rule. For a structure this follows from its members, one
by one (`Wire.exists_members?`).
-/

namespace RecordQuery.Wire

/-- `Abridged base w w'` says that `w'` is `w` with the members in any order and without some of those that
are the same in `base`, also inside the members that are kept. -/
inductive Abridged : Wire → Wire → Wire → Prop
  | whole (base w : Wire) : Abridged base w w
  | leave {base members short : List (String × Wire)} {name : String} {w : Wire}
    (same : base.lookup name = some w)
    (rest : Abridged (.object base) (.object members) (.object short)) :
    Abridged (.object base) (.object ((name, w) :: members)) (.object short)
  | keep {base members short : List (String × Wire)} {name : String} {w w' : Wire}
    (member : Abridged ((base.lookup name).getD .null) w w')
    (rest : Abridged (.object base) (.object members) (.object short)) :
    Abridged (.object base) (.object ((name, w) :: members)) (.object ((name, w') :: short))
  | reorder {base w : Wire} {short short' : List (String × Wire)}
    (abridged : Abridged base w (.object short)) (perm : short.Perm short') :
    Abridged base w (.object short')

/-- From the wire forms of the values of a type, abridged or not, `result` of them is read. -/
structure ReadsAs {α : Type} (default : α) (toWire : α → Wire) (read? : Wire → Option α)
    (result : α → α) : Prop where
  result_default : result default = default
  read?_eq : ∀ x w, Abridged (toWire default) (toWire x) w → read? w = some (result x)

/-- The values of a type are read from their wire forms, abridged or not. -/
abbrev ReadsBack {α : Type} (default : α) (toWire : α → Wire) (read? : Wire → Option α) : Prop :=
  ReadsAs default toWire read? id

variable {α : Type} {toWire : α → Wire} {read? : Wire → Option α} {result : α → α}
variable {base members short : List (String × Wire)} {name : String} {v w : Wire}

/-- Only objects are abridged. -/
theorem Abridged.eq_of_leaf {base v : Wire} (leaf : ∀ members, v ≠ .object members)
    (abridged : Abridged base v w) : w = v := by
  induction abridged with
  | whole => rfl
  | leave => exact absurd rfl (leaf _)
  | keep => exact absurd rfl (leaf _)
  | reorder abridged perm ih => exact absurd (ih leaf).symm (leaf _)

theorem ReadsAs.of_leaf {default : α} (leaf : ∀ x members, toWire x ≠ .object members)
    (result_default : result default = default) (reads : ∀ x, read? (toWire x) = some (result x)) :
    ReadsAs default toWire read? result := by
  refine ⟨result_default, fun x w abridged => ?_⟩
  rw [abridged.eq_of_leaf (leaf x)]
  exact reads x

/-! ## Members -/

/-- The names of the members of an object. -/
def names (members : List (String × Wire)) : List String := members.map Prod.fst

theorem mem_names_of_mem (mem : (name, v) ∈ members) : name ∈ names members :=
  List.mem_map.2 ⟨(name, v), mem, rfl⟩

theorem lookup_eq_some_of_mem (distinct : (names members).Nodup) (mem : (name, v) ∈ members) :
    members.lookup name = some v := by
  induction members with
  | nil => exact absurd mem List.not_mem_nil
  | cons head members ih =>
    obtain ⟨first, u⟩ := head
    obtain ⟨isNew, distinctRest⟩ := List.nodup_cons.1 distinct
    rcases List.mem_cons.1 mem with here | later
    · cases here
      exact List.lookup_cons_self
    · have other : name ≠ first := by
        rintro rfl
        exact isNew (mem_names_of_mem later)
      rw [List.lookup_cons, beq_false_of_ne other]
      exact ih distinctRest later

theorem lookup_eq_none_of_not_mem (absent : name ∉ names members) : members.lookup name = none := by
  rw [List.lookup_eq_none_iff]
  rintro ⟨other, v⟩ mem
  rw [bne_iff_ne]
  rintro rfl
  exact absent (mem_names_of_mem mem)

/-- What has been abridged is an object with some of the names. Each of the members either has been left
out, and is as in `base`, or is kept. -/
theorem Abridged.exists_short (distinct : (names members).Nodup)
    (abridged : Abridged (.object base) (.object members) w) :
    ∃ short, w = .object short ∧ (names short).Nodup ∧ names short ⊆ names members ∧
      ∀ name v, (name, v) ∈ members →
        name ∉ names short ∧ base.lookup name = some v ∨
          ∃ v', (name, v') ∈ short ∧ Abridged ((base.lookup name).getD .null) v v' := by
  generalize fromObject : Wire.object members = whole at abridged
  generalize fromBase : Wire.object base = default at abridged
  induction abridged generalizing members base with
  | whole =>
    subst fromObject
    exact ⟨members, rfl, distinct, List.Subset.refl _, fun name v mem => .inr ⟨v, mem, .whole _ v⟩⟩
  | leave same _ ih =>
    cases fromObject
    cases fromBase
    obtain ⟨isNew, distinctRest⟩ := List.nodup_cons.1 distinct
    obtain ⟨short, found, distinctShort, among, kept⟩ := ih distinctRest rfl rfl
    refine ⟨short, found, distinctShort, List.subset_cons_of_subset _ among, ?_⟩
    intro name v mem
    rcases List.mem_cons.1 mem with here | later
    · cases here
      exact .inl ⟨fun memShort => isNew (among memShort), same⟩
    · exact kept name v later
  | @keep base members short first _ _ member _ _ ih =>
    cases fromObject
    cases fromBase
    obtain ⟨isNew, distinctRest⟩ := List.nodup_cons.1 distinct
    obtain ⟨_, found, distinctShort, among, kept⟩ := ih distinctRest rfl rfl
    cases found
    have isNewShort : first ∉ names short := fun memShort => isNew (among memShort)
    refine ⟨_, rfl, List.nodup_cons.2 ⟨isNewShort, distinctShort⟩,
      List.cons_subset_cons first among, ?_⟩
    intro name v mem
    rcases List.mem_cons.1 mem with here | later
    · cases here
      exact .inr ⟨_, List.mem_cons_self, member⟩
    · have other : name ≠ first := by
        rintro rfl
        exact isNew (mem_names_of_mem later)
      rcases kept name v later with ⟨left, same⟩ | ⟨v', memShort, abridged⟩
      · exact .inl ⟨List.not_mem_cons_of_ne_of_not_mem other left, same⟩
      · exact .inr ⟨v', List.mem_cons_of_mem _ memShort, abridged⟩
  | @reorder _ _ short short' _ perm ih =>
    obtain ⟨_, found, distinctShort, among, kept⟩ := ih distinct fromObject fromBase
    cases found
    have namesPerm : (names short).Perm (names short') := perm.map Prod.fst
    refine ⟨short', rfl, namesPerm.nodup_iff.1 distinctShort,
      fun _ mem => among (namesPerm.mem_iff.2 mem), ?_⟩
    intro name v mem
    rcases kept name v mem with ⟨left, same⟩ | ⟨v', memShort, abridged⟩
    · exact .inl ⟨fun memNames => left (namesPerm.mem_iff.2 memNames), same⟩
    · exact .inr ⟨v', perm.mem_iff.1 memShort, abridged⟩

/-- Members without defaults that are no objects stay as they are, in any order. -/
theorem Abridged.perm_of_leaves (leaves : ∀ e ∈ members, ∀ inner, e.2 ≠ .object inner)
    (abridged : Abridged (.object []) (.object members) w) :
    ∃ short, w = .object short ∧ short.Perm members := by
  generalize fromObject : Wire.object members = whole at abridged
  generalize fromBase : Wire.object [] = default at abridged
  induction abridged generalizing members with
  | whole =>
    subst fromObject
    exact ⟨members, rfl, .refl _⟩
  | leave same _ _ =>
    cases fromBase
    cases same
  | keep member _ _ ih =>
    cases fromObject
    obtain ⟨leaf, leavesRest⟩ := List.forall_mem_cons.1 leaves
    obtain ⟨short, found, perm⟩ := ih leavesRest rfl fromBase
    cases found
    rw [member.eq_of_leaf leaf]
    exact ⟨_, rfl, perm.cons _⟩
  | reorder _ perm ih =>
    obtain ⟨short, found, among⟩ := ih leaves fromObject fromBase
    cases found
    exact ⟨_, rfl, perm.symm.trans among⟩

/-- In an abridged structure each member is read from what was written, and as its default if it was left
out. -/
theorem exists_members? (expected : List String)
    (abridged : Abridged (.object base) (.object members) w) (namesAre : names members = expected)
    (distinct : expected.Nodup) :
    ∃ member, w.members? expected = some member ∧
      ∀ {α : Type} {default : α} {toWire : α → Wire} {read? : Wire → Option α} {result : α → α}
        (name : String) (x : α), ReadsAs default toWire read? result →
        members.lookup name = some (toWire x) → base.lookup name = some (toWire default) →
        memberOr? default read? (member name) = some (result x) := by
  obtain ⟨short, rfl, distinctShort, -, kept⟩ := abridged.exists_short (namesAre ▸ distinct)
  refine ⟨fun name => short.lookup name, rfl, ?_⟩
  intro α default toWire read? result name x ⟨result_default, reads⟩ written inBase
  dsimp only
  obtain ⟨before, after, rfl, -⟩ := List.lookup_eq_some_iff.1 written
  rcases kept name (toWire x) List.mem_append_cons_self with ⟨left, same⟩ | ⟨v, mem, memberAbridged⟩
  · -- what is left out is written like the default, so what is read from it is the default too
    have isDefault : some default = some (result x) := by
      rw [← reads x _ (.whole _ _), Option.some.inj (same.symm.trans inBase), reads default _ (.whole _ _),
        result_default]
    rw [lookup_eq_none_of_not_mem left]
    exact isDefault
  · rw [lookup_eq_some_of_mem distinctShort mem]
    rw [inBase] at memberAbridged
    exact reads x v memberAbridged

end RecordQuery.Wire
