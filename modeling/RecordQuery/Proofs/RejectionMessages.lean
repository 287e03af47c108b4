import RecordQuery.Proofs.Quoting
import RecordQuery.Query.SortingText

/-!
What the messages of refusals show. A message is the opening for its kind of refusal and a detail
(`Rejection.message_eq`). No opening is the beginning of another, and the quoted text or the limit behind it
can be read again, so a message is that of one rejection only (`Rejection.message_injective`). Nothing in it
is a control character or a break, whatever a client sent (`Rejection.isShown_message`).
-/

namespace RecordQuery

open Text

/-- Texts differ that begin with words of which none begins the other. -/
theorem append_ne_append {p q s t : String}
    (apart : ¬ p.toList <+: q.toList ∧ ¬ q.toList <+: p.toList) : p ++ s ≠ q ++ t := by
  intro same
  have begins : p.toList <+: (q ++ t).toList := by
    rw [← same, String.toList_append]
    exact List.prefix_append p.toList s.toList
  have begins' : q.toList <+: (q ++ t).toList := by
    rw [String.toList_append]
    exact List.prefix_append q.toList t.toList
  rcases List.prefix_or_prefix_of_prefix begins begins' with shorter | longer
  · exact apart.1 shorter
  · exact apart.2 longer

/-! ## Page parameters and limits -/

theorem PageParameter.name_append_inj {parameter parameter' : PageParameter} {s t : String}
    (same : parameter.name ++ s = parameter'.name ++ t) : parameter = parameter' ∧ s = t := by
  cases parameter <;> cases parameter'
  case size.size => exact ⟨rfl, (String.append_right_inj _).1 same⟩
  case offset.offset => exact ⟨rfl, (String.append_right_inj _).1 same⟩
  all_goals exact absurd same (append_ne_append (by decide))

theorem Limit.message_injective : Function.Injective Limit.message := by
  have toString_injective : Function.Injective (toString : Int → String) := by
    intro m n same
    have read := (readInt?_toString m).1
    rw [same, (readInt?_toString n).1] at read
    exact (Option.some.inj read).symm
  intro limit limit' same
  cases limit <;> cases limit'
  case atLeast.atLeast m n => rw [toString_injective ((String.append_right_inj _).1 same)]
  case atMost.atMost m n => rw [toString_injective ((String.append_right_inj _).1 same)]
  all_goals exact absurd same (append_ne_append (by decide))

theorem Limit.isShown_message (limit : Limit) : IsShown limit.message := by
  cases limit with
  | atLeast n => exact (isShown_of_ascii (by decide)).append (isShown_toString n)
  | atMost n => exact (isShown_of_ascii (by decide)).append (isShown_toString n)

theorem PageParameter.isShown_name (parameter : PageParameter) : IsShown parameter.name := by
  cases parameter <;> exact isShown_of_ascii (by decide)

namespace Rejection

/-! ## Openings and details -/

/-- How the message of each kind of rejection opens. -/
def opening : Rejection → String
  | orderSegment _ => "invalid format for order by parameter: "
  | direction _ => "invalid order direction "
  | filterExpression _ => "invalid filter request: "
  | page _ _ => "validation error: "

/-- What a message says of its own rejection. -/
def detail : Rejection → String
  | orderSegment segment => quote segment
  | direction word => quote word ++ "; must be 'asc' or 'desc'"
  | filterExpression expression => quote expression
  | page parameter limit => parameter.name ++ (": " ++ limit.message)

theorem message_eq (r : Rejection) : r.message = r.opening ++ r.detail := by
  cases r with
  | orderSegment segment => rfl
  | direction word => exact String.append_assoc
  | filterExpression expression => rfl
  | page parameter limit =>
    change "validation error: " ++ parameter.name ++ ": " ++ limit.message = _
    rw [String.append_assoc, String.append_assoc]
    rfl

/-- Different rejections have different messages. -/
theorem message_injective : Function.Injective message := by
  intro r r' same
  rw [message_eq, message_eq] at same
  cases r <;> cases r'
  case orderSegment.orderSegment segment segment' =>
    rw [quote_injective ((String.append_right_inj _).1 same)]
  case direction.direction word word' =>
    have quoted := (String.append_right_inj _).1 same
    rw [quote_injective ((String.append_left_inj _).1 quoted)]
  case filterExpression.filterExpression expression expression' =>
    rw [quote_injective ((String.append_right_inj _).1 same)]
  case page.page parameter limit parameter' limit' =>
    have named := (String.append_right_inj _).1 same
    obtain ⟨rfl, behind⟩ := PageParameter.name_append_inj named
    rw [Limit.message_injective ((String.append_right_inj _).1 behind)]
  -- of two kinds, neither opening begins the other, so the details need not be looked at
  all_goals exact absurd same (append_ne_append (by dsimp only [opening]; decide))

/-! ## Shown messages -/

theorem isShown_opening (r : Rejection) : IsShown r.opening := by
  cases r <;> exact isShown_of_ascii (by dsimp only [opening]; decide)

theorem isShown_detail (r : Rejection) : IsShown r.detail := by
  cases r with
  | orderSegment segment => exact isShown_quote segment
  | direction word => exact (isShown_quote word).append (isShown_of_ascii (by decide))
  | filterExpression expression => exact isShown_quote expression
  | page parameter limit =>
    have reason : IsShown (": " ++ limit.message) :=
      (isShown_of_ascii (by decide)).append limit.isShown_message
    exact parameter.isShown_name.append reason

theorem isShown_message (r : Rejection) : IsShown r.message := by
  rw [message_eq]
  exact r.isShown_opening.append r.isShown_detail

/-- Whatever was refused, its message shows no control character and no break, and only the same rejection
has the same message: one of the same kind, for the same text or for the same parameter and limit. -/
theorem message_identifies (r r' : Rejection) :
    (∀ c ∈ r.message.toList, ¬ IsControlOrBreak c) ∧ (r.message = r'.message ↔ r = r') :=
  ⟨fun _ mem => not_isControlOrBreak (r.isShown_message _ mem), message_injective.eq_iff⟩

/-- A segment that ends with a line feed is not mistaken for one that ends with its escape. -/
theorem message_identifies_of_line_feed :
    Sorting.ofText "a b c\n" = .error (.orderSegment "a b c\n") ∧
      Sorting.ofText "a b c\\n" = .error (.orderSegment "a b c\\n") ∧
      '\n' ∉ (orderSegment "a b c\n").message.toList ∧
      (orderSegment "a b c\n").message ≠ (orderSegment "a b c\\n").message := by
  have identifies := message_identifies (orderSegment "a b c\n") (orderSegment "a b c\\n")
  refine ⟨by rfl, by rfl, fun mem => identifies.1 '\n' mem (.inl (by decide)), ?_⟩
  exact identifies.2.not.2 (by decide)

end Rejection

end RecordQuery
