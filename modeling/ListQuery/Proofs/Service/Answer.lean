import ListQuery.Proofs.Encoding
import ListQuery.Proofs.Filter.Rendering
import ListQuery.Proofs.Filter.Value
import ListQuery.Proofs.Query
import ListQuery.Service.Message

/-!
# Answers to list queries

Every selection has an answer, since every number that a query was accepted with has a value. The
answer has an encoded form if the query has, and no other selection has the same one.
-/

namespace ListQuery

open Text

/-! ## Values in answers -/

namespace Service

open ListQuery.Filter (Comparable Literal)

/-- Digits with a point have an encoded form. -/
theorem isEncodable_positional {digits : Text} (encodable : isEncodable digits = true)
    (places : Nat) : isEncodable (Decimal.positional digits places) = true := by
  have padded : isEncodable ('0' :: '.' :: digits) = true := encodable
  apply isEncodable_of_subset padded
  intro c member
  unfold Decimal.positional at member
  split at member
  · simp [member]
  · split at member
    · rcases List.mem_append.1 member with whole | behind
      · simp [List.mem_of_mem_take whole]
      · rcases List.mem_cons.1 behind with rfl | fraction
        · simp
        · simp [List.mem_of_mem_drop fraction]
    · simp only [List.mem_cons, List.mem_append, List.mem_replicate] at member ⊢
      tauto

/-- Digits in scientific form have an encoded form. -/
theorem isEncodable_scientific {digits : Text} (encodable : isEncodable digits = true)
    (power : Int) : isEncodable (Decimal.scientific digits power) = true := by
  have exponent : isEncodable (Decimal.exponentText power) = true := by
    unfold Decimal.exponentText
    split <;> exact isEncodable_ofNat power.natAbs
  match digits with
  | [] => exact exponent
  | [digit] =>
    simp only [isEncodable_cons, Bool.and_eq_true] at encodable
    simp [Decimal.scientific, encodable, exponent]
  | digit :: next :: more =>
    have point : (CodePoint.scalar '.').isScalar = true := rfl
    simp only [isEncodable_cons, Bool.and_eq_true] at encodable
    simp [Decimal.scientific, encodable, exponent, point]

/-- The text of a finite decimal number has an encoded form. -/
theorem isEncodable_toText (coefficient : Nat) (exponent : Int) :
    isEncodable (Decimal.finite false coefficient exponent).toText = true := by
  have digits := isEncodable_ofNat coefficient
  show isEncodable (if _ then _ else _) = true
  split
  · exact isEncodable_positional digits _
  · exact isEncodable_scientific digits _

/-- The value of a literal that a filter may hold. It has an encoded form if the literal has. -/
theorem exists_value {comparator : Filter.Comparator} {literal : Literal}
    (comparable : Comparable comparator literal) :
    ∃ value, AnswerValue.ofLiteral? literal = some value ∧
      (isEncodable literal.raw = true → ∀ text, value = .text text → isEncodable text = true) := by
  cases comparable with
  | string value unordered =>
    refine ⟨.text value, rfl, ?_⟩
    rintro encodable _ ⟨rfl⟩
    exact isEncodable_of_subset encodable (Quoted.subset_encode value)
  | number isNumber ordered =>
    cases isNumber with
    | whole run bounded =>
      refine ⟨.integer _, by rw [AnswerValue.ofLiteral?, Number.ofText?_whole run bounded]; rfl, ?_⟩
      simp
    | fractional run bounded fractionRun fractionBounded =>
      refine ⟨.text _, by
        rw [AnswerValue.ofLiteral?,
          Number.ofText?_fractional run bounded fractionRun fractionBounded]
        rfl, ?_⟩
      rintro - _ ⟨rfl⟩
      exact isEncodable_toText _ _

/-! ## Answers -/

/-- The answer's form of a condition that a filter may hold. It has an encoded form if the literal
has. -/
theorem exists_conditionAnswer {allowed : AllowList} {condition : Filter.Condition}
    (admissible : condition.Admissible allowed)
    (encodable : isEncodable condition.literal.raw = true) :
    ∃ answer, ConditionAnswer.ofCondition? condition = some answer ∧
      ∀ text ∈ answer.texts, isEncodable text = true := by
  obtain ⟨value, isValue, encodableValue⟩ := exists_value admissible.comparable
  have column : isEncodable condition.column = true := by
    refine isEncodable_of_ascii fun c member => ?_
    have word := isWordChar_iff.1 (admissible.word.word c member)
    omega
  refine ⟨_, by rw [ConditionAnswer.ofCondition?, isValue]; rfl, ?_⟩
  intro text member
  simp only [ConditionAnswer.texts, List.mem_append, List.mem_cons, List.not_mem_nil,
    or_false] at member
  rcases member with (rfl | rfl) | inValue
  · exact column
  · exact encodable
  · cases value with
    | integer value => simp at inValue
    | text shown =>
      cases List.mem_singleton.1 inValue
      exact encodableValue encodable text rfl

/-- Conditions have answers if each of them has one. -/
theorem exists_conditionAnswers {conditions : List Filter.Condition}
    (each : ∀ condition ∈ conditions, ∃ answer,
      ConditionAnswer.ofCondition? condition = some answer ∧
        ∀ text ∈ answer.texts, isEncodable text = true) :
    ∃ answers, conditions.mapM ConditionAnswer.ofCondition? = some answers ∧
      ∀ answer ∈ answers, ∀ text ∈ answer.texts, isEncodable text = true := by
  induction conditions with
  | nil => exact ⟨[], rfl, by simp⟩
  | cons condition conditions ih =>
    obtain ⟨first, others⟩ := List.forall_mem_cons.1 each
    obtain ⟨answer, isAnswer, encodable⟩ := first
    obtain ⟨answers, areAnswers, encodables⟩ := ih others
    refine ⟨answer :: answers, ?_, List.forall_mem_cons.2 ⟨encodable, encodables⟩⟩
    exact mapM_eq_some_iff.2 (.cons isAnswer (mapM_eq_some_iff.1 areAnswers))

/-- What was accepted of an encodable query has an answer, and that can be sent. -/
theorem exists_answer {config : Config} {resource : Resource} {query : Query}
    {selection : Selection} {requestId : Text}
    (accepts : query.Accepts config resource selection) (encodable : query.IsEncodable)
    (named : isEncodable resource.name = true) (identified : isEncodable requestId = true) :
    ∃ answer, QueryAnswer.ofSelection? resource.name selection requestId = some answer ∧
      (Body.query answer).failure? = none := by
  have told := (Query.meets_examine encodable).of_ok (Query.result_examine_eq_ok_iff.2 accepts)
  have admissible := Filter.admissible_of_parse accepts.filter
  obtain ⟨answers, areAnswers, encodables⟩ := exists_conditionAnswers fun condition member =>
    exists_conditionAnswer (admissible condition member) (told.filter condition member)
  refine ⟨_, by rw [QueryAnswer.ofSelection?, areAnswers]; rfl, ?_⟩
  rw [Body.failure?, if_pos]
  simp only [Body.texts, QueryAnswer.texts, List.all_eq_true, List.mem_append, List.mem_cons,
    List.mem_map, List.mem_flatMap, List.not_mem_nil, or_false]
  rintro text ((((rfl | field) | ⟨key, isKey, rfl⟩) | ⟨answer, isAnswer, inAnswer⟩) | rfl)
  · exact named
  · exact told.fields text field
  · exact told.sort key isKey
  · exact encodables answer isAnswer text inAnswer
  · exact identified

/-- A condition is told by its answer. -/
theorem conditionAnswer_unique {condition other : Filter.Condition} {answer : ConditionAnswer}
    (first : ConditionAnswer.ofCondition? condition = some answer)
    (second : ConditionAnswer.ofCondition? other = some answer) : condition = other := by
  obtain ⟨value, isValue, rfl⟩ := Option.map_eq_some_iff.1 first
  obtain ⟨otherValue, isOtherValue, same⟩ := Option.map_eq_some_iff.1 second
  obtain ⟨column, comparator, literal⟩ := condition
  obtain ⟨otherColumn, otherComparator, otherLiteral⟩ := other
  cases literal with
  | string raw quoted =>
    cases isValue
    cases otherLiteral with
    | string otherRaw otherQuoted =>
      cases isOtherValue
      simp_all [Filter.Literal.raw]
    | number otherRaw => simp at same
  | number raw =>
    cases otherLiteral with
    | string otherRaw otherQuoted => simp at same
    | number otherRaw => simp_all [Filter.Literal.raw]

/-- A selection is told by its answer. -/
theorem selection_unique {resource other requestId otherId : Text}
    {selection otherSelection : Selection} {answer : QueryAnswer}
    (first : QueryAnswer.ofSelection? resource selection requestId = some answer)
    (second : QueryAnswer.ofSelection? other otherSelection otherId = some answer) :
    selection = otherSelection := by
  obtain ⟨conditions, areConditions, rfl⟩ := Option.map_eq_some_iff.1 first
  obtain ⟨otherConditions, areOtherConditions, same⟩ := Option.map_eq_some_iff.1 second
  have sameConditions : selection.filter.conditions = otherSelection.filter.conditions := by
    have answered : otherConditions = conditions := congrArg QueryAnswer.conditions same
    rw [answered] at areOtherConditions
    have unique : Relator.LeftUnique fun condition answer =>
        ConditionAnswer.ofCondition? condition = some answer :=
      fun _ _ _ first second => conditionAnswer_unique first second
    exact unique.forall₂ (mapM_eq_some_iff.1 areConditions) (mapM_eq_some_iff.1 areOtherConditions)
  obtain ⟨fields, sort, ⟨own, connectives, groups⟩, limit⟩ := selection
  obtain ⟨otherFields, otherSort, ⟨others, otherConnectives, otherGroups⟩, otherLimit⟩ :=
    otherSelection
  simp_all

end Service

end ListQuery
