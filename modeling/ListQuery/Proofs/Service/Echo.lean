import ListQuery.Proofs.Filter.ExactNumber
import ListQuery.Service.Message

/-!
# Fractions in answers

The answer to a list query gives the value of a fraction as the text of its decimal number. A plain
fraction comes back with its digits and its places and can be put into a filter again. A smaller one
comes back with an exponent, which filters do not know. `fractions_echoed` tells the two apart.
-/

namespace ListQuery

open Text

namespace Filter

/-- A number of the grammar with a point consists of a run of digits on either side of it. -/
theorem IsNumber.of_pointed {whole fraction : Text}
    (number : IsNumber (whole ++ CodePoint.scalar '.' :: fraction)) :
    DigitRun whole ∧ whole.length ≤ 15 ∧ DigitRun fraction ∧ fraction.length ≤ 15 := by
  have noPoint : ∀ {digits : Text}, DigitRun digits → CodePoint.scalar '.' ∉ digits :=
    fun run => run.digits.not_mem (by decide)
  generalize same : whole ++ CodePoint.scalar '.' :: fraction = text at number
  cases number with
  | whole run bounded =>
    exact absurd (by simp [← same]) (noPoint run)
  | @fractional front back run bounded fractionRun fractionBounded =>
    rcases List.append_eq_append_iff.1 same with
      ⟨between, isFront, behind⟩ | ⟨between, isWhole, behind⟩
    · cases between with
      | nil =>
        cases behind
        rw [List.append_nil] at isFront
        exact isFront ▸ ⟨run, bounded, fractionRun, fractionBounded⟩
      | cons c between =>
        cases behind
        exact absurd (by simp [isFront]) (noPoint run)
    · cases between with
      | nil =>
        cases behind
        rw [List.append_nil] at isWhole
        exact isWhole ▸ ⟨run, bounded, fractionRun, fractionBounded⟩
      | cons c between =>
        cases behind
        exact absurd (by simp) (noPoint fractionRun)

/-- A number of the grammar consists of digits and points. -/
theorem IsNumber.digit_or_point {text : Text} {c : CodePoint} (number : IsNumber text)
    (member : c ∈ text) : isAsciiDigit c = true ∨ c = .scalar '.' := by
  cases number with
  | whole run bounded => exact .inl (run.digits c member)
  | fractional run bounded fractionRun fractionBounded =>
    rcases List.mem_append.1 member with front | behind
    · exact .inl (run.digits c front)
    · rcases List.mem_cons.1 behind with point | back
      · exact .inr point
      · exact .inl (fractionRun.digits c back)

/-- A condition that a filter may hold is a filter by itself. -/
theorem parse_condition {allowed : AllowList} {condition : Condition}
    (admissible : condition.Admissible allowed) :
    parse allowed condition.text = .ok (single condition) := by
  have columns : allowed ≠ [] := List.ne_nil_of_mem admissible.listed
  have derives : Derives allowed .operand 32 _ (single condition) :=
    .condition admissible within_nil within_nil
  simp only [List.append_nil] at derives
  exact parse_of_sentence columns derives.alone.sentence

/-- No filter that is read holds a number with an exponent. -/
theorem mark_notMem_of_parse {allowed : AllowList} {raw : Text} {filter : Filter}
    (read : parse allowed raw = .ok filter) :
    ∀ condition ∈ filter.conditions, ∀ text, condition.literal = .number text →
      CodePoint.scalar 'E' ∉ text := by
  intro condition member text isNumber found
  have comparable := (admissible_of_parse read condition member).comparable
  rw [isNumber] at comparable
  cases comparable with
  | number number ordered =>
    rcases number.digit_or_point found with digit | point
    · exact absurd digit (by decide)
    · cases point

end Filter

namespace Service

open Decimal (IsPlain)
open ListQuery.Filter (single)

/-- How the answer echoes a condition with a fraction that a filter on these columns holds. -/
structure Echoes (allowed : AllowList) (condition : Filter.Condition)
    (whole fraction echo : Text) : Prop where
  answered : ConditionAnswer.ofCondition? condition =
    some ⟨condition.column, condition.comparator, condition.literal.raw, true, .text echo⟩
  denotes : Number.ofText? echo = Number.ofText? (whole ++ CodePoint.scalar '.' :: fraction)
  positional : IsPlain whole fraction →
    echo = ofNat (digitsValue whole) ++ CodePoint.scalar '.' :: fraction
  asWritten : IsPlain whole fraction →
    (echo = whole ++ CodePoint.scalar '.' :: fraction ↔
      (whole.head? = some (.scalar '0') → whole = [.scalar '0']))
  putBack : IsPlain whole fraction →
    Filter.parse allowed { condition with literal := .number echo }.text =
      .ok (single { condition with literal := .number echo })
  scientific : ¬ IsPlain whole fraction → CodePoint.scalar 'E' ∈ echo
  unreadable : ¬ IsPlain whole fraction → ∀ allowed raw filter,
    Filter.parse allowed raw = .ok filter →
      ∀ condition ∈ filter.conditions, condition.literal ≠ .number echo

/-- Every fraction of a filter that is read is echoed with the value that it denotes. The echo is
the fraction as it was written, zeros in front left aside, and can be put back into a filter if the
fraction has at most six places or is no less than a millionth. Otherwise it has an exponent, and is
no number literal of any filter. -/
theorem fractions_echoed {allowed : AllowList} {raw : Text} {filter : Filter}
    (read : Filter.parse allowed raw = .ok filter) :
    ∀ condition ∈ filter.conditions, ∀ whole fraction,
      condition.literal = .number (whole ++ CodePoint.scalar '.' :: fraction) →
        ∃ echo, Echoes allowed condition whole fraction echo := by
  intro condition member whole fraction isNumber
  have admissible := Filter.admissible_of_parse read condition member
  have comparable := admissible.comparable
  rw [isNumber] at comparable
  cases comparable with
  | number number ordered =>
    obtain ⟨run, short, fractionRun, fractionShort⟩ := number.of_pointed
    have denotes := Number.ofText?_fractional run short fractionRun fractionShort
    have exactly := Number.isExact_decimal run short fractionRun fractionShort
    have shortest := digitRun_ofNat (digitsValue whole)
    refine ⟨(Decimal.finite false (digitsValue (whole ++ fraction)) (-fraction.length)).toText, ?_⟩
    constructor
    · rw [ConditionAnswer.ofCondition?, isNumber, AnswerValue.ofLiteral?, denotes]
      rfl
    · exact exactly.readsBack.trans denotes.symm
    · exact Decimal.toText_of_isPlain fractionRun
    · intro plain
      rw [Decimal.toText_of_isPlain fractionRun plain, List.append_left_inj]
      exact run.ofNat_eq_iff
    · intro plain
      rw [Decimal.toText_of_isPlain fractionRun plain]
      have echoed : Filter.IsNumber
          (ofNat (digitsValue whole) ++ CodePoint.scalar '.' :: fraction) :=
        .fractional shortest (run.length_ofNat_le.trans short) fractionRun fractionShort
      exact Filter.parse_condition
        ⟨admissible.listed, admissible.word, admissible.unreserved, .number echoed ordered⟩
    · exact Decimal.mark_mem_toText
    · intro small allowed raw filter read condition member same
      exact Filter.mark_notMem_of_parse read condition member _ same (Decimal.mark_mem_toText small)

/-- Of two fractions in one filter, one is echoed as it was written and one with an exponent. -/
theorem fractions_echoed_both :
    Filter.parse ["a", "b"] "a>=12.50 and b<0.0000001" =
        .ok ⟨[⟨"a", .greaterOrEqual, .number "12.50"⟩, ⟨"b", .less, .number "0.0000001"⟩], [.and],
          []⟩ ∧
      Echoes ["a", "b"] ⟨"a", .greaterOrEqual, .number "12.50"⟩ "12" "50" "12.50" ∧
      Echoes ["a", "b"] ⟨"b", .less, .number "0.0000001"⟩ "0" "0000001" "1E-7" ∧
      IsPlain "12" "50" ∧ ¬ IsPlain "0" "0000001" := by
  have read : Filter.parse ["a", "b"] "a>=12.50 and b<0.0000001" =
      .ok ⟨[⟨"a", .greaterOrEqual, .number "12.50"⟩, ⟨"b", .less, .number "0.0000001"⟩], [.and],
        []⟩ := by
    decide +kernel
  obtain ⟨echo, echoes⟩ := fractions_echoed read ⟨"a", .greaterOrEqual, .number "12.50"⟩ (by simp)
    "12" "50" rfl
  obtain ⟨other, otherEchoes⟩ := fractions_echoed read ⟨"b", .less, .number "0.0000001"⟩ (by simp)
    "0" "0000001" rfl
  have first : ConditionAnswer.ofCondition? ⟨"a", .greaterOrEqual, .number "12.50"⟩ =
      some ⟨"a", .greaterOrEqual, "12.50", true, .text "12.50"⟩ := by
    decide +kernel
  have second : ConditionAnswer.ofCondition? ⟨"b", .less, .number "0.0000001"⟩ =
      some ⟨"b", .less, "0.0000001", true, .text "1E-7"⟩ := by
    decide +kernel
  cases first.symm.trans echoes.answered
  cases second.symm.trans otherEchoes.answered
  refine ⟨read, echoes, otherEchoes, (Decimal.isPlain_iff _ _).2 (by decide +kernel), ?_⟩
  exact mt (Decimal.isPlain_iff _ _).1 (by decide +kernel)

/-- A fraction that is not plain is not echoed as it was written, and its echo is no number literal
of a filter. -/
theorem fraction_echoed_with_exponent :
    Filter.parse ["a"] "a=0.0000001" = .ok (single ⟨"a", .equal, .number "0.0000001"⟩) ∧
      ConditionAnswer.ofCondition? ⟨"a", .equal, .number "0.0000001"⟩ =
        some ⟨"a", .equal, "0.0000001", true, .text "1E-7"⟩ ∧
      (∀ filter, Filter.parse ["a"] "a=1E-7" ≠ .ok filter) ∧
      ¬ ∀ allowed raw filter, Filter.parse allowed raw = .ok filter →
        ∀ condition ∈ filter.conditions, ∀ whole fraction,
          condition.literal = .number (whole ++ CodePoint.scalar '.' :: fraction) →
          (whole.head? = some (.scalar '0') → whole = [.scalar '0']) →
            ∃ answer, ConditionAnswer.ofCondition? condition = some answer ∧
              answer.value = .text (whole ++ CodePoint.scalar '.' :: fraction) := by
  have read : Filter.parse ["a"] "a=0.0000001" =
      .ok (single ⟨"a", .equal, .number "0.0000001"⟩) := by
    decide +kernel
  have answered : ConditionAnswer.ofCondition? ⟨"a", .equal, .number "0.0000001"⟩ =
      some ⟨"a", .equal, "0.0000001", true, .text "1E-7"⟩ := by
    decide +kernel
  refine ⟨read, answered, ?_, fun asWritten => ?_⟩
  · intro filter accepted
    have refused : (Filter.parse ["a"] "a=1E-7").isOk = false := by decide +kernel
    rw [accepted] at refused
    cases refused
  · obtain ⟨answer, isAnswer, same⟩ := asWritten _ _ _ read ⟨"a", .equal, .number "0.0000001"⟩
      (by simp [single]) "0" "0000001" rfl (fun _ => rfl)
    cases answered.symm.trans isAnswer
    exact absurd same (by decide +kernel)

end Service

end ListQuery
