import ListQuery.Proofs.Filter.ExactNumber
import ListQuery.Proofs.Number.Classification

/-!
# The values of number literals

A number literal has the value that it writes, to the last digit, unless its exponents are beyond
those of decimal numbers. The test for literals does not look at these: a magnitude that is too
small for binary floating point is as good as zero for it, and a zero may have any exponent.
`literals_have_values` is the exact condition.
-/

namespace ListQuery

open Text

namespace Decimal

/-- The exponents of a numeral are those of a decimal number: no place is too small, and no zero
too large. -/
structure Numeral.IsRepresentable (numeral : Numeral) : Prop where
  least : -1999999999999999997 ≤ numeral.scale
  ofZero : numeral.coefficient = 0 → numeral.scale ≤ 999999999999999999

/-- A numeral within the range of number literals is a decimal number exactly if its exponents are
those of one. -/
theorem inRange_iff_isRepresentable {numeral : Numeral}
    (finite : Number.isInRange numeral.coefficient numeral.scale = true) :
    InRange numeral.coefficient numeral.scale ↔ numeral.IsRepresentable := by
  unfold InRange maxLeadingPower minExponent
  rcases Nat.eq_zero_or_pos numeral.coefficient with none | positive
  · have power : leadingPower numeral.coefficient numeral.scale = numeral.scale := by
      have single : (ofNat 0).length = 1 := rfl
      rw [leadingPower, none, single]
      omega
    rw [power]
    exact ⟨fun inside => ⟨inside.2, fun _ => inside.1⟩, fun fits => ⟨fits.ofZero none, fits.least⟩⟩
  · -- A number that is not zero is below the overflow threshold, which has 309 digits.
    have small : leadingPower numeral.coefficient numeral.scale ≤ 308 := by
      by_contra large
      have nonzero : numeral.coefficient ≠ 0 := by omega
      have noSmall : ¬ leadingPower numeral.coefficient numeral.scale < 308 := by omega
      have isLarge : 308 < leadingPower numeral.coefficient numeral.scale := by omega
      simp [Number.isInRange, nonzero, noSmall, isLarge] at finite
    constructor
    · intro inside
      exact ⟨inside.2, fun none => absurd none (by omega)⟩
    · intro fits
      exact ⟨by omega, fits.least⟩

/-- A finite number is made of given parts exactly if they are in range. -/
theorem finite?_eq_some_iff {negative : Bool} {coefficient : Nat} {exponent : Int}
    {value : Decimal} : finite? negative coefficient exponent = some value ↔
      InRange coefficient exponent ∧ value = .finite negative coefficient exponent := by
  rw [finite?, Option.ite_none_right_eq_some, Option.some.injEq, eq_comm (a := value)]
  rfl

/-- No word for a special number starts with a digit or a point. -/
theorem unsigned?_of_isWrittenBy {numeral : Numeral} {body : Text}
    (isBody : numeral.IsWrittenBy body) (negative : Bool) :
    unsigned? negative body = finite? negative numeral.coefficient numeral.scale := by
  obtain ⟨c, rest, rfl, first⟩ := isBody.first
  have ordinary : unsigned? negative (c :: rest) = (Numeral.ofText? (c :: rest)).bind fun numeral =>
      finite? negative numeral.coefficient numeral.scale := by
    rcases first with digit | rfl
    · exact unsigned?_of_digit negative digit
    · have noLetter : (CodePoint.scalar '.').toAsciiLower = .scalar '.' := by decide
      simp [unsigned?, nan?, afterWord?, noLetter]
  rw [ordinary, Numeral.ofText?_eq_some_iff.2 isBody]
  rfl

end Decimal

namespace Number

/-- A token without blanks at its ends and without underscores is read as the decimal number that it
writes, if its exponents are in range. -/
theorem decimal_ofText?_of_writes {token : Text} {negative : Bool} {numeral : Decimal.Numeral}
    (bare : Bare isBlank token) (noUnderscore : CodePoint.scalar '_' ∉ token)
    (writes : WritesDecimal token negative numeral) :
    Decimal.ofText? token = Decimal.finite? negative numeral.coefficient numeral.scale := by
  obtain ⟨ascii, isAscii, isSign, read⟩ := writesDecimal_iff.1 writes
  have isBody := Decimal.Numeral.ofText?_eq_some_iff.1 read
  have kept : token.filter (· ≠ CodePoint.scalar '_') = token := by
    refine List.filter_eq_self.2 fun c member => decide_eq_true ?_
    rintro rfl
    exact noUnderscore member
  rw [Decimal.ofText?, trim_of_bare bare, kept, isAscii, ← isSign]
  exact Decimal.unsigned?_of_isWrittenBy isBody _

/-- An integer that a token writes is the decimal number of the same digits. -/
theorem WritesInteger.exists_decimal {token : Text} {value : Int}
    (writes : WritesInteger token value) :
    ∃ negative numeral, WritesDecimal token negative numeral ∧
      signedValue negative numeral = value := by
  obtain ⟨plain, isSign, run, bounded⟩ := writes
  rename_i sign digits negative
  have isBody := Decimal.Numeral.IsWrittenBy.whole run .absent
  rw [List.append_nil] at isBody
  refine ⟨negative, _, .intro plain isSign isBody, ?_⟩
  have fraction : digitsValue [] = 0 := rfl
  cases negative <;>
    simp [signedValue, Decimal.Numeral.value, Integer.signed, fraction]

/-- A decimal number in range has the value of its numeral. -/
theorem toRat?_of_numeral (negative : Bool) (numeral : Decimal.Numeral) :
    toRat? (.decimal (.finite negative numeral.coefficient numeral.scale)) =
      some (signedValue negative numeral) := by
  rw [toRat?, signedValue, Decimal.Numeral.value_eq, mul_assoc]

/-- A token that writes an integer has it for its value. -/
theorem ofText?_of_writesInteger {token : Text} {value : Int} (bare : Bare isBlank token)
    (noUnderscore : CodePoint.scalar '_' ∉ token) (writes : WritesInteger token value) :
    ofText? token = some (.integer value) := by
  have read := Integer.ofText?_eq_some_iff.2 ((integer_writes_iff bare noUnderscore).2 writes)
  rw [ofText?, read]

/-- A token that writes no integer has the decimal number that it writes for its value. -/
theorem ofText?_of_writesDecimal {token : Text} {negative : Bool} {numeral : Decimal.Numeral}
    (bare : Bare isBlank token) (noUnderscore : CodePoint.scalar '_' ∉ token)
    (noInteger : ∀ value, ¬ WritesInteger token value)
    (writes : WritesDecimal token negative numeral) :
    ofText? token =
      (Decimal.finite? negative numeral.coefficient numeral.scale).map .decimal := by
  have unread : Integer.ofText? token = none := by
    cases read : Integer.ofText? token with
    | none => rfl
    | some value =>
      have writes := Integer.ofText?_eq_some_iff.1 read
      exact absurd ((integer_writes_iff bare noUnderscore).1 writes) (noInteger value)
  rw [ofText?, unread, decimal_ofText?_of_writes bare noUnderscore writes]

/-- A number literal writes a decimal number below the overflow threshold, or an integer. -/
theorem exists_writes_of_isNumber {token : Text} (isNumber : isNumber token = true) :
    ∃ negative numeral, WritesDecimal token negative numeral ∧
      ((∀ value, ¬ WritesInteger token value) →
        isInRange numeral.coefficient numeral.scale = true) := by
  obtain ⟨-, -, -, ⟨value, writes⟩ | finite⟩ := isNumber_iff.1 isNumber
  · obtain ⟨negative, numeral, decimal, -⟩ := writes.exists_decimal
    exact ⟨negative, numeral, decimal, fun noInteger => absurd writes (noInteger value)⟩
  · obtain ⟨negative, numeral, decimal, below⟩ := isFiniteDecimal_iff.1 finite
    rw [abs_signedValue, Decimal.Numeral.value_eq, ← isInRange_iff] at below
    exact ⟨negative, numeral, decimal, fun _ => below⟩

end Number

namespace Filter

open Number

/-- A number literal keeps the token that it was classified from. -/
theorem Literal.isNumber_of_ofToken? {token raw : Text}
    (classified : ofToken? token = some (.number raw)) : raw = token ∧ isNumber token = true := by
  unfold ofToken? at classified
  split at classified
  · cases classified
  · split at classified
    · rename_i isNumber
      cases classified
      exact ⟨rfl, isNumber⟩
    · cases classified

/-- A token that is a number literal writes one rational number. The literal has a value exactly if
it writes an integer or its exponents are those of a decimal number, and its value is then the
integer or finite decimal number that is exactly the number written. -/
theorem literals_have_values {token raw : Text}
    (classified : Literal.ofToken? token = some (.number raw)) :
    raw = token ∧ ∃ negative numeral, WritesDecimal token negative numeral ∧
      ((∃ number, Number.ofText? raw = some number) ↔
        (∃ value, WritesInteger token value) ∨ numeral.IsRepresentable) ∧
      ∀ number, Number.ofText? raw = some number →
        number.toRat? = some (signedValue negative numeral) := by
  obtain ⟨rfl, isNumber⟩ := Literal.isNumber_of_ofToken? classified
  obtain ⟨-, bare, noUnderscore, -⟩ := isNumber_iff.1 isNumber
  obtain ⟨negative, numeral, decimal, finite⟩ := exists_writes_of_isNumber isNumber
  refine ⟨rfl, negative, numeral, decimal, ?_⟩
  by_cases integer : ∃ value, WritesInteger raw value
  · obtain ⟨value, writes⟩ := integer
    have isValue := ofText?_of_writesInteger bare noUnderscore writes
    obtain ⟨_, _, same, exactly⟩ := writes.exists_decimal
    obtain ⟨rfl, rfl⟩ := decimal.unique same
    refine ⟨⟨fun _ => .inl ⟨value, writes⟩, fun _ => ⟨_, isValue⟩⟩, fun number isNumber => ?_⟩
    cases isValue.symm.trans isNumber
    rw [toRat?, exactly]
  · have noInteger := not_exists.1 integer
    have inRange := Decimal.inRange_iff_isRepresentable (finite noInteger)
    rw [ofText?_of_writesDecimal bare noUnderscore noInteger decimal]
    simp only [Option.map_eq_some_iff, Decimal.finite?_eq_some_iff, inRange]
    constructor
    · constructor
      · rintro ⟨_, _, ⟨representable, -⟩, -⟩
        exact .inr representable
      · rintro (some | representable)
        · exact absurd some integer
        · exact ⟨_, _, ⟨representable, rfl⟩, rfl⟩
    · rintro _ ⟨_, ⟨-, rfl⟩, rfl⟩
      exact toRat?_of_numeral negative numeral

/-- A digit of another script counts, and the value keeps the places of the token. -/
theorem literals_have_values_scripted :
    Literal.ofToken? "-٣.50e+2" = some (.number "-٣.50e+2") ∧
      Number.ofText? "-٣.50e+2" = some (.decimal (.finite true 350 0)) ∧
      signedValue true ⟨"3", "50", 2⟩ = -350 ∧
      toRat? (.decimal (.finite true 350 0)) = some (signedValue true ⟨"3", "50", 2⟩) := by
  have classified : Literal.ofToken? "-٣.50e+2" = some (.number "-٣.50e+2") := by
    decide +kernel
  have denotes : Number.ofText? "-٣.50e+2" = some (.decimal (.finite true 350 0)) := by
    decide +kernel
  have writes : WritesDecimal "-٣.50e+2" true ⟨"3", "50", 2⟩ :=
    writesDecimal_iff.2 ⟨"-3.50e+2", by decide +kernel, by decide +kernel, by decide +kernel⟩
  obtain ⟨-, negative, numeral, written, -, exactly⟩ := literals_have_values classified
  obtain ⟨rfl, rfl⟩ := written.unique writes
  have whole : digitsValue "3" = 3 := by decide +kernel
  have fraction : digitsValue "50" = 50 := by decide +kernel
  have places : (of "50").length = 2 := rfl
  have value : signedValue true ⟨"3", "50", 2⟩ = -350 := by
    rw [signedValue, Decimal.Numeral.value, whole, fraction, places]
    norm_num
  exact ⟨classified, denotes, value, exactly _ denotes⟩

/-- A literal may write a number that is too small for a decimal number. It has no value then. -/
theorem literal_without_value :
    Literal.ofToken? "1e-99999999999999999999" = some (.number "1e-99999999999999999999") ∧
      Number.ofText? "1e-99999999999999999999" = none ∧
      ¬ ∀ token raw, Literal.ofToken? token = some (.number raw) →
        ∃ number, Number.ofText? raw = some number := by
  have classified : Literal.ofToken? "1e-99999999999999999999" =
      some (.number "1e-99999999999999999999") := by
    decide +kernel
  have noValue : Number.ofText? "1e-99999999999999999999" = none := by decide +kernel
  refine ⟨classified, noValue, fun haveValues => ?_⟩
  obtain ⟨number, isNumber⟩ := haveValues _ _ classified
  cases noValue.symm.trans isNumber

end Filter

end ListQuery
