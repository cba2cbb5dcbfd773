import ListQuery.Proofs.Filter.Rendering
import ListQuery.Proofs.Filter.Value
import ListQuery.Proofs.Number.Positional

/-!
# Numbers of filters are exact

A number literal of a filter denotes the number that it writes, to the last digit: an integer, or a
decimal number that keeps the digits and the places of the literal. `numbers_exact` says so, and
that such a number is not negative, is bounded and is read from its text again.
-/

namespace ListQuery.Number

open Text

/-- The rational number that a finite number is. -/
def toRat? : Number → Option ℚ
  | integer value => some value
  | decimal (.finite negative coefficient exponent) =>
    some ((if negative then -1 else 1) * coefficient * 10 ^ exponent)
  | decimal (.infinite _) | decimal (.nan ..) => none

/-- A number is what digits and further digits behind a point write. It has no other coefficient and
no other exponent, and is read from its text again, as a number and as a decimal number. -/
structure IsExact (whole fraction : Text) (number : Number) : Prop where
  integer : fraction = [] → number = .integer (digitsValue whole)
  decimal : fraction ≠ [] →
    number = .decimal (.finite false (digitsValue (whole ++ fraction)) (-fraction.length))
  value : number.toRat? =
    some ((digitsValue whole : ℚ) + (digitsValue fraction : ℚ) / 10 ^ fraction.length)
  bounded : ∀ value ∈ number.toRat?, 0 ≤ value ∧ value < 10 ^ 15
  readsBack : ofText? number.text = some number
  decimalReadsBack : ∀ value, number = .decimal value → Decimal.ofText? value.toText = some value

/-- A run of digits is an exact integer. -/
theorem isExact_integer {digits : Text} (run : DigitRun digits) (short : digits.length ≤ 15) :
    IsExact digits [] (.integer (digitsValue digits)) := by
  have below : digitsValue digits < 10 ^ 15 :=
    (digitsValue_lt run.digits).trans_le (Nat.pow_le_pow_right (by decide) short)
  constructor
  · exact fun _ => rfl
  · exact fun some => absurd rfl some
  · simp [toRat?, digitsValue]
  · rintro _ ⟨rfl⟩
    exact ⟨by simp, by exact_mod_cast below⟩
  · refine ofText?_text_integer ?_
    have few : (ofNat (digitsValue digits)).length ≤ 15 := (length_ofNat_le_iff (by decide)).2 below
    exact Nat.le_trans few (by decide)
  · simp

/-- Two runs of digits around a point are an exact decimal number. -/
theorem isExact_decimal {whole fraction : Text} (run : DigitRun whole)
    (short : whole.length ≤ 15) (fractionRun : DigitRun fraction)
    (fractionShort : fraction.length ≤ 15) :
    IsExact whole fraction
      (.decimal (.finite false (digitsValue (whole ++ fraction)) (-fraction.length))) := by
  have inRange := inRange_of_digitRun run short fractionRun fractionShort
  have places : 0 < fraction.length := List.length_pos_iff.2 fractionRun.nonempty
  have value : toRat? (.decimal (.finite false (digitsValue (whole ++ fraction))
      (-fraction.length))) =
      some ((digitsValue (whole ++ fraction) : ℚ) / 10 ^ fraction.length) := by
    simp [toRat?, div_eq_mul_inv]
  constructor
  · exact fun none => absurd none fractionRun.nonempty
  · exact fun _ => rfl
  · rw [value, cast_digitsValue_append]
  · rw [value]
    rintro _ ⟨rfl⟩
    have below : digitsValue (whole ++ fraction) < 10 ^ 15 * 10 ^ fraction.length := by
      refine (digitsValue_lt (run.append fractionRun.digits).digits).trans_le ?_
      rw [List.length_append, Nat.pow_add]
      exact Nat.mul_le_mul_right _ (Nat.pow_le_pow_right (by decide) short)
    refine ⟨by positivity, (div_lt_iff₀ (by positivity)).2 ?_⟩
    exact_mod_cast below
  · exact ofText?_text_decimal inRange (by omega)
  · rintro _ ⟨rfl⟩
    exact Decimal.ofText?_toText inRange

end ListQuery.Number

namespace ListQuery.Filter

open Text

/-- Every number literal of a filter that is read denotes exactly the number that it writes: an
integer if it has no point, and otherwise the decimal number with its digits and its places, which
is not negative, stays below `10 ^ 15` and is read from its text again. -/
theorem numbers_exact {allowed : AllowList} {raw : Text} {filter : Filter}
    (read : parse allowed raw = .ok filter) :
    ∀ condition ∈ filter.conditions, ∀ text, condition.literal = .number text →
      ∃ whole fraction number, DigitRun whole ∧ Within isAsciiDigit fraction ∧
        text = whole ++ (if fraction = [] then [] else CodePoint.scalar '.' :: fraction) ∧
        Number.ofText? text = some number ∧ number.IsExact whole fraction := by
  intro condition member text isNumber
  have comparable := (admissible_of_parse read condition member).comparable
  rw [isNumber] at comparable
  cases comparable with
  | number number ordered =>
    cases number with
    | whole run short =>
      exact ⟨text, [], _, run, within_nil, by simp, Number.ofText?_whole run short,
        Number.isExact_integer run short⟩
    | @fractional whole fraction run short fractionRun fractionShort =>
      exact ⟨whole, fraction, _, run, fractionRun.digits, by simp [fractionRun.nonempty],
        Number.ofText?_fractional run short fractionRun fractionShort,
        Number.isExact_decimal run short fractionRun fractionShort⟩

/-- A fraction with zeros on both sides has a scientific text, and keeps its last zero. -/
theorem numbers_exact_scientific :
    parse ["a", "b"] "(a<0.00000010 OR b>=042)" =
        .ok ⟨[⟨"a", .less, .number "0.00000010"⟩, ⟨"b", .greaterOrEqual, .number "042"⟩], [.or],
          [⟨0, 1⟩]⟩ ∧
      Number.ofText? "0.00000010" = some (.decimal (.finite false 10 (-8))) ∧
      (Decimal.finite false 10 (-8)).toText = "1.0E-7" ∧
      Decimal.ofText? (Decimal.finite false 10 (-8)).toText = some (.finite false 10 (-8)) := by
  have read : parse ["a", "b"] "(a<0.00000010 OR b>=042)" =
      .ok ⟨[⟨"a", .less, .number "0.00000010"⟩, ⟨"b", .greaterOrEqual, .number "042"⟩], [.or],
        [⟨0, 1⟩]⟩ := by
    decide +kernel
  have denotes : Number.ofText? "0.00000010" = some (.decimal (.finite false 10 (-8))) := by
    decide +kernel
  obtain ⟨whole, fraction, number, -, -, -, isNumber, exactly⟩ :=
    numbers_exact read ⟨"a", .less, .number "0.00000010"⟩ (by simp) "0.00000010" rfl
  cases denotes.symm.trans isNumber
  exact ⟨read, denotes, by decide +kernel, exactly.decimalReadsBack _ rfl⟩

end ListQuery.Filter
