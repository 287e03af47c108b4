import RecordQuery.Proofs.FilterExpression
import RecordQuery.Proofs.TextContainment

/-!
Empty fields and values of filters. An expression is only read at an equals sign with a character of a
field before it and a character of a value behind it, but blanks around field and value do not count, and
these characters may all be blank. So the predicates of an accepted filter have no equals sign in their
fields, but a field is empty if nothing but blanks was read for it, and a value likewise
(`Filter.ofText_empty_iff_blank`). A predicate with an empty value then holds for every text
(`Value.contains_empty`).
-/

namespace RecordQuery

/-- The empty text is contained in every text. -/
theorem Value.contains_empty (haystack : String) :
    (Value.text haystack).contains (.text "") = true := by
  have plain : '*' ∉ "".toList := List.not_mem_nil
  rw [contains_text_iff_of_plain plain]
  exact List.nil_infix

namespace Predicate

variable {e before field line after : List Char} {p : Predicate}

theorem ofCut_field_eq_empty_iff : (ofCut field line).field = "" ↔ Text.AllBlank field := by
  rw [ofCut, String.ofList_eq_empty_iff, Text.trim_eq_nil_iff]

theorem ofCut_value_eq_empty_iff : (ofCut field line).value = .text "" ↔ Text.AllBlank line := by
  rw [ofCut, Value.text.injEq, String.ofList_eq_empty_iff, Text.trim_eq_nil_iff]

theorem equals_not_mem_field (plain : '=' ∉ field) : '=' ∉ (ofCut field line).field.toList := by
  rw [ofCut, String.toList_ofList]
  exact mt Text.mem_of_mem_trim plain

/-- What is read as the field of an expression is blank. -/
def HasBlankField (e : List Char) : Prop :=
  ∃ before field line after, ReadAt e before field line after ∧ Text.AllBlank field

/-- What is read as the value of an expression is blank. -/
def HasBlankValue (e : List Char) : Prop :=
  ∃ before field line after, ReadAt e before field line after ∧ Text.AllBlank line

/-- Of an expression that is read, field and value are empty exactly if what was read for them is blank. -/
theorem ofExpression_empty_iff_blank (ok : ofExpression e = .ok p) :
    '=' ∉ p.field.toList ∧ (p.field = "" ↔ HasBlankField e) ∧
      (p.value = .text "" ↔ HasBlankValue e) := by
  obtain ⟨before, field, line, after, read, rfl⟩ := readAt_of_ofExpression ok
  refine ⟨equals_not_mem_field read.field_plain, ?_, ?_⟩
  · rw [ofCut_field_eq_empty_iff]
    constructor
    · intro blank
      exact ⟨before, field, line, after, read, blank⟩
    · rintro ⟨_, _, _, _, other, blank⟩
      rwa [(read.unique other).1]
  · rw [ofCut_value_eq_empty_iff]
    constructor
    · intro blank
      exact ⟨before, field, line, after, read, blank⟩
    · rintro ⟨_, _, _, _, other, blank⟩
      rwa [(read.unique other).2]

end Predicate

namespace Filter

/-- The predicates of an accepted filter are those of its expressions, in turn. None has an equals sign in
its field. A field is empty exactly if blanks were read for it, and so is a value. -/
theorem ofText_empty_iff_blank {s : String} {f : Filter} (ok : ofText s = .ok f) :
    List.Forall₂ (fun e p =>
      '=' ∉ p.field.toList ∧ (p.field = "" ↔ Predicate.HasBlankField e) ∧
        (p.value = .text "" ↔ Predicate.HasBlankValue e)) (expressions s) f.predicates := by
  rw [ofText_eq_mapM, map_eq_ok_iff] at ok
  obtain ⟨predicates, read, rfl⟩ := ok
  exact (mapM_eq_ok_iff.1 read).imp fun e p => Predicate.ofExpression_empty_iff_blank

/-- A tab is all that is read for the first value and a blank all that is read for the second field; in the
third expression both parts have other characters. -/
theorem ofText_empty_iff_blank_of_gaps :
    let f : Filter := ⟨[⟨"name", .text ""⟩, ⟨"", .text "x"⟩, ⟨"a", .text "b=c"⟩]⟩
    ofText "name=\t OR  =x OR a = b=c" = .ok f ∧
      (¬ Predicate.HasBlankField "name=\t".toList ∧ Predicate.HasBlankValue "name=\t".toList) ∧
      (Predicate.HasBlankField " =x".toList ∧ ¬ Predicate.HasBlankValue " =x".toList) ∧
      ¬ Predicate.HasBlankField "a = b=c".toList ∧ ¬ Predicate.HasBlankValue "a = b=c".toList := by
  intro f
  have ok : ofText "name=\t OR  =x OR a = b=c" = .ok f := by with_unfolding_all rfl
  have expressions : expressions "name=\t OR  =x OR a = b=c" =
      ["name=\t".toList, " =x".toList, "a = b=c".toList] := by
    with_unfolding_all rfl
  have parts := ofText_empty_iff_blank ok
  rw [expressions] at parts
  obtain ⟨⟨-, nameField, nameValue⟩, parts⟩ := List.forall₂_cons.1 parts
  obtain ⟨⟨-, xField, xValue⟩, parts⟩ := List.forall₂_cons.1 parts
  obtain ⟨⟨-, aField, aValue⟩, -⟩ := List.forall₂_cons.1 parts
  exact ⟨ok, ⟨mt nameField.2 (by decide), nameValue.1 rfl⟩, ⟨xField.1 rfl, mt xValue.2 (by decide)⟩,
    mt aField.2 (by decide), mt aValue.2 (by decide)⟩

/-- A blank behind the equals sign makes a filter that every text passes, and a blank before it asks for a
field without a name. -/
theorem exists_empty_part :
    ofText "name= " = .ok ⟨[⟨"name", .text ""⟩]⟩ ∧ ofText " =x" = .ok ⟨[⟨"", .text "x"⟩]⟩ ∧
      ∀ haystack, (Value.text haystack).contains (.text "") = true :=
  ⟨by with_unfolding_all rfl, by with_unfolding_all rfl, Value.contains_empty⟩

end Filter

end RecordQuery
