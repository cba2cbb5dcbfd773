import Mathlib.Algebra.Order.Field.Rat
import Mathlib.Tactic.NormNum
import Mathlib.Tactic.Positivity
import ListQuery.Proofs.Number.Decimal

/-!
# Decimal numbers without an exponent

A run of digits is determined by its length and by the number that it writes, so the digits of that
number behind as many zeros as are missing are the run itself. A decimal number with few places, or
one that is not too small, is therefore written as it was read, zeros in front left aside
(`toText_of_isPlain`). Every other one is written with an exponent (`mark_mem_toText`).
-/

namespace ListQuery.Text

/-! ## Runs of digits with one value -/

/-- Digits behind a point write a fraction of the power of ten of their number. -/
theorem cast_digitsValue_append (whole fraction : Text) :
    (digitsValue (whole ++ fraction) : ℚ) / 10 ^ fraction.length =
      digitsValue whole + (digitsValue fraction : ℚ) / 10 ^ fraction.length := by
  rw [digitsValue_append]
  push_cast
  rw [add_div, mul_div_cancel_right₀ _ (by positivity)]

/-- Runs of digits of the same length that write the same number are the same. -/
theorem eq_of_digitsValue_eq {digits other : Text} (inside : Within isAsciiDigit digits)
    (isOther : Within isAsciiDigit other) (sameLength : digits.length = other.length)
    (sameValue : digitsValue digits = digitsValue other) : digits = other := by
  induction digits using List.reverseRecOn generalizing other with
  | nil => exact (List.length_eq_zero_iff.1 sameLength.symm).symm
  | append_singleton digits c ih =>
    cases other using List.reverseRecOn with
    | nil => simp at sameLength
    | append_singleton others d =>
      obtain ⟨front, lastDigit⟩ := within_append.1 inside
      obtain ⟨otherFront, otherDigit⟩ := within_append.1 isOther
      have last := isAsciiDigit_iff.1 (lastDigit c (by simp))
      have otherLast := isAsciiDigit_iff.1 (otherDigit d (by simp))
      rw [digitsValue_concat, digitsValue_concat] at sameValue
      have sameFront : digits = others :=
        ih front otherFront (by simpa using sameLength) (by omega)
      have sameLast : c = d := CodePoint.toNat_inj.1 (by omega)
      rw [sameFront, sameLast]

/-- The shortest run of digits with the value of a run, behind as many zeros as are missing, is the
run. -/
theorem DigitRun.padded {digits : Text} (run : DigitRun digits) :
    List.replicate (digits.length - (ofNat (digitsValue digits)).length) (CodePoint.scalar '0') ++
      ofNat (digitsValue digits) = digits := by
  apply eq_of_digitsValue_eq
  · exact within_append.2 ⟨within_replicate rfl _, (digitRun_ofNat _).digits⟩
  · exact run.digits
  · have short := run.length_ofNat_le
    rw [List.length_append, List.length_replicate]
    omega
  · rw [digitsValue_zeros, digitsValue_ofNat]

/-- A run of digits is the shortest one with its value exactly if it has no zero in front of other
digits. -/
theorem DigitRun.ofNat_eq_iff {digits : Text} (run : DigitRun digits) :
    ofNat (digitsValue digits) = digits ↔
      (digits.head? = some (.scalar '0') → digits = [.scalar '0']) := by
  constructor
  · intro shortest zero
    obtain ⟨others, rfl⟩ := List.head?_eq_some_iff.1 zero
    by_contra more
    have positive : 0 < others.length := by
      apply List.length_pos_iff.2
      rintro rfl
      exact more rfl
    have below := digitsValue_lt (within_cons.1 run.digits).2
    have unchanged : digitsValue (.scalar '0' :: others) = digitsValue others :=
      digitsValue_zeros 1 others
    rw [← unchanged] at below
    have short := (length_ofNat_le_iff positive).2 below
    rw [shortest, List.length_cons] at short
    omega
  · intro noZero
    have padded := run.padded
    cases missing : digits.length - (ofNat (digitsValue digits)).length with
    | zero => simpa [missing] using padded
    | succ count =>
      rw [missing, List.replicate_succ, List.cons_append] at padded
      have single := noZero (by rw [← padded, List.head?_cons])
      rw [single]
      rfl

/-- The digits of a number go on as the run that it was read from, if something else than zeros
stands in front. -/
theorem ofNat_append {front back : Text} (positive : 0 < digitsValue front)
    (isBack : Within isAsciiDigit back) :
    ofNat (digitsValue (front ++ back)) = ofNat (digitsValue front) ++ back := by
  have shortest := digitRun_ofNat (digitsValue front)
  have value : digitsValue (front ++ back) = digitsValue (ofNat (digitsValue front) ++ back) := by
    rw [digitsValue_append, digitsValue_append, digitsValue_ofNat]
  rw [value]
  apply (shortest.append isBack).ofNat_eq_iff.2
  intro zero
  -- A zero in front would be all of the shortest run, whose value is positive.
  rw [List.head?_append_of_ne_nil _ shortest.nonempty] at zero
  have single := shortest.ofNat_eq_iff.1 (by rw [digitsValue_ofNat]) zero
  have none : digitsValue front = digitsValue [.scalar '0'] := by rw [← single, digitsValue_ofNat]
  rw [none] at positive
  exact absurd positive (by decide)

end ListQuery.Text

namespace ListQuery.Decimal

open Text

/-! ## Texts with a point -/

/-- The digits of two runs with a point in front of the second run are written as they are, zeros in
front left aside. -/
theorem positional_ofNat (whole : Text) {fraction : Text} (fractionRun : DigitRun fraction) :
    positional (ofNat (digitsValue (whole ++ fraction))) fraction.length =
      ofNat (digitsValue whole) ++ CodePoint.scalar '.' :: fraction := by
  have places : 0 < fraction.length := List.length_pos_iff.2 fractionRun.nonempty
  rcases Nat.eq_zero_or_pos (digitsValue whole) with none | positive
  · -- Only the digits behind the point count, and zeros fill them up to their number.
    have value : digitsValue (whole ++ fraction) = digitsValue fraction := by
      rw [digitsValue_append, none, Nat.zero_mul, Nat.zero_add]
    have short := fractionRun.length_ofNat_le
    have zero : ofNat 0 = [CodePoint.scalar '0'] := rfl
    rw [value, none, zero, positional, if_neg (by omega), if_neg (by omega), fractionRun.padded]
    rfl
  · rw [ofNat_append positive fractionRun.digits]
    have some := List.length_pos_iff.2 (digitRun_ofNat (digitsValue whole)).nonempty
    rw [positional, if_neg (by omega), if_pos (by rw [List.length_append]; omega)]
    simp

/-- A fraction has at most six places or is no less than a millionth. -/
def IsPlain (whole fraction : Text) : Prop :=
  fraction.length ≤ 6 ∨
    (1 : ℚ) / 10 ^ 6 ≤ digitsValue whole + (digitsValue fraction : ℚ) / 10 ^ fraction.length

/-- A fraction is plain exactly if the power of ten of its leading digit is at least that of a
millionth. -/
theorem isPlain_iff (whole fraction : Text) :
    IsPlain whole fraction ↔
      -6 ≤ leadingPower (digitsValue (whole ++ fraction)) (-fraction.length) := by
  have some := List.length_pos_iff.2 (digitRun_ofNat (digitsValue (whole ++ fraction))).nonempty
  unfold IsPlain leadingPower
  rcases Nat.lt_or_ge 6 fraction.length with many | few
  · have least : (1 : ℚ) / 10 ^ 6 ≤
        digitsValue whole + (digitsValue fraction : ℚ) / 10 ^ fraction.length ↔
          10 ^ (fraction.length - 6) ≤ digitsValue (whole ++ fraction) := by
      have split : (10 : ℚ) ^ fraction.length = 10 ^ (fraction.length - 6) * 10 ^ 6 := by
        rw [← pow_add, Nat.sub_add_cancel (by omega)]
      rw [← cast_digitsValue_append, div_le_div_iff₀ (by positivity) (by positivity), one_mul,
        split, mul_le_mul_iff_of_pos_right (by positivity)]
      exact_mod_cast Iff.rfl
    have digits := @length_ofNat_le_iff (digitsValue (whole ++ fraction)) (fraction.length - 6)
      (by omega)
    rw [least]
    omega
  · exact ⟨fun _ => by omega, fun _ => .inl few⟩

/-- A plain fraction is written as it was read, zeros in front left aside. -/
theorem toText_of_isPlain {whole fraction : Text} (fractionRun : DigitRun fraction)
    (plain : IsPlain whole fraction) :
    (finite false (digitsValue (whole ++ fraction)) (-fraction.length)).toText =
      ofNat (digitsValue whole) ++ CodePoint.scalar '.' :: fraction := by
  have large := (isPlain_iff whole fraction).1 plain
  rw [toText, if_pos ⟨by omega, large⟩, Int.natAbs_neg, Int.natAbs_natCast,
    positional_ofNat whole fractionRun]
  rfl

/-- A fraction that is not plain is written with an exponent. -/
theorem mark_mem_toText {whole fraction : Text} (small : ¬ IsPlain whole fraction) :
    CodePoint.scalar 'E' ∈
      (finite false (digitsValue (whole ++ fraction)) (-fraction.length)).toText := by
  have low : ¬ _ := mt (isPlain_iff whole fraction).2 small
  rw [toText, if_neg fun both => low both.2]
  exact mark_mem_scientific _ _

end ListQuery.Decimal
