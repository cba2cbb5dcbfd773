import ListQuery.Proofs.Filter.Literal
import ListQuery.Proofs.Number.Value

/-!
# Values of number literals

A whole number of the grammar denotes an integer, and a fractional one the decimal number with its
digits and its places. So every number that a filter holds has a value.
-/

namespace ListQuery.Number

open Text ListQuery.Filter

/-- A whole number denotes an integer. -/
theorem ofText?_whole {digits : Text} (run : DigitRun digits) (bounded : digits.length ≤ 15) :
    ofText? digits = some (.integer (digitsValue digits)) := by
  have fits : digits.length ≤ Integer.maxDigits := Nat.le_trans bounded (by decide)
  simp [ofText?, Integer.ofText?_of_digitRun run fits]

/-- Two short runs of digits write a number in the range of decimal numbers. -/
theorem inRange_of_digitRun {whole fraction : Text} (run : DigitRun whole)
    (bounded : whole.length ≤ 15) (fractionRun : DigitRun fraction)
    (fractionBounded : fraction.length ≤ 15) :
    Decimal.InRange (digitsValue (whole ++ fraction)) (-fraction.length) := by
  have short := (run.append fractionRun.digits).length_ofNat_le
  rw [List.length_append] at short
  unfold Decimal.InRange Decimal.leadingPower Decimal.maxLeadingPower Decimal.minExponent
  omega

/-- A fractional number denotes the decimal number with its digits and its places. -/
theorem ofText?_fractional {whole fraction : Text} (run : DigitRun whole)
    (bounded : whole.length ≤ 15) (fractionRun : DigitRun fraction)
    (fractionBounded : fraction.length ≤ 15) :
    ofText? (whole ++ CodePoint.scalar '.' :: fraction) =
      some (.decimal (.finite false (digitsValue (whole ++ fraction)) (-fraction.length))) :=
  ofText?_of_writes (c := .scalar '.') (writes_fractional run fractionRun) false (by simp)
    (by decide) (by decide) (inRange_of_digitRun run bounded fractionRun fractionBounded)

end ListQuery.Number
