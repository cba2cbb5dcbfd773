import ListQuery.Proofs.Number.IntegerText
import ListQuery.Proofs.Number.Positional

/-!
# What decimal numerals look like

    numeral  := digits ("." digit*)? exponent? | "." digits exponent?
    exponent := ("e" | "E") sign? digits

`Numeral.IsWrittenBy` relates an ASCII text without a sign to the digits and the exponent that it
writes; `Numeral.ofText?_eq_some_iff` holds the reader against it in both directions.
`Numeral.value` is the rational number that a numeral stands for, to the last digit.
-/

namespace ListQuery.Decimal.Numeral

open Text

/-! ## The grammar -/

/-- The exponent part of a numeral writes an exponent. -/
inductive ExponentIsWrittenBy : Int → Text → Prop where
  | absent : ExponentIsWrittenBy 0 []
  | present {mark : CodePoint} {sign digits : Text} {negative : Bool}
      (isMark : mark = .scalar 'e' ∨ mark = .scalar 'E') (isSign : Integer.IsSign negative sign)
      (run : DigitRun digits) :
      ExponentIsWrittenBy (Integer.signed negative (digitsValue digits)) (mark :: (sign ++ digits))

/-- A text writes a numeral: digits, or digits around a point of which those on one side may be
missing, and an exponent part. -/
inductive IsWrittenBy : Numeral → Text → Prop where
  | whole {digits rest : Text} {exponent : Int} (run : DigitRun digits)
      (isExponent : ExponentIsWrittenBy exponent rest) :
      IsWrittenBy ⟨digits, [], exponent⟩ (digits ++ rest)
  | pointed {whole fraction rest : Text} {exponent : Int} (isWhole : Within isAsciiDigit whole)
      (isFraction : Within isAsciiDigit fraction) (someDigit : whole ≠ [] ∨ fraction ≠ [])
      (isExponent : ExponentIsWrittenBy exponent rest) :
      IsWrittenBy ⟨whole, fraction, exponent⟩ (whole ++ .scalar '.' :: (fraction ++ rest))

/-- An exponent part starts with no digit and no point. -/
theorem ExponentIsWrittenBy.first {exponent : Int} {rest : Text}
    (isExponent : ExponentIsWrittenBy exponent rest) :
    StopsAt isAsciiDigit rest ∧ rest.head? ≠ some (.scalar '.') := by
  cases isExponent with
  | absent => exact ⟨stopsAt_nil, by simp⟩
  | present isMark isSign run =>
    rcases isMark with rfl | rfl
    · exact ⟨stopsAt_cons.2 (by decide), by simp⟩
    · exact ⟨stopsAt_cons.2 (by decide), by simp⟩

/-- An exponent is read from a text exactly if the text writes it. -/
theorem exponent?_eq_some_iff {rest : Text} {exponent : Int} :
    exponent? rest = some exponent ↔ ExponentIsWrittenBy exponent rest := by
  constructor
  · intro read
    cases rest with
    | nil =>
      cases read
      exact .absent
    | cons mark rest =>
      obtain ⟨sign, isSign, same⟩ := Integer.exists_sign rest
      simp only [exponent?] at read
      split at read
      · rename_i isMark
        simp only [Bool.or_eq_true, decide_eq_true_eq] at isMark
        split at read
        · rename_i areDigits
          simp only [Bool.and_eq_true, decide_eq_true_eq] at areDigits
          have run : DigitRun (Integer.splitSign rest).2 :=
            ⟨areDigits.1, List.all_eq_true.1 areDigits.2⟩
          have written := ExponentIsWrittenBy.present isMark isSign run
          rwa [← same, Option.some.inj read] at written
        · cases read
      · cases read
  · intro isExponent
    cases isExponent with
    | absent => rfl
    | @present mark sign digits negative isMark isSign run =>
      have unsigned := Integer.splitSign_digits isSign run
      have areDigits : digits.all isAsciiDigit = true := List.all_eq_true.2 run.digits
      simp [exponent?, isMark, unsigned, run.nonempty, areDigits]

/-- A numeral is read from a text exactly if the text writes it. -/
theorem ofText?_eq_some_iff {text : Text} {numeral : Numeral} :
    ofText? text = some numeral ↔ numeral.IsWrittenBy text := by
  constructor
  · intro read
    have parts := @List.takeWhile_append_dropWhile _ isAsciiDigit text
    have isWhole := @within_takeWhile isAsciiDigit text
    simp only [ofText?] at read
    generalize text.takeWhile isAsciiDigit = whole at parts isWhole read
    generalize text.dropWhile isAsciiDigit = behind at parts read
    split at read
    · cases read
    rename_i someDigit
    obtain ⟨exponent, isExponent, rfl⟩ := Option.map_eq_some_iff.1 read
    have isExponent := exponent?_eq_some_iff.1 isExponent
    rw [← parts]
    revert someDigit isExponent
    unfold splitFraction
    split
    · rename_i rest
      intro someDigit isExponent
      have isFraction := @within_takeWhile isAsciiDigit rest
      rw [Bool.and_eq_true, decide_eq_true_eq, decide_eq_true_eq, not_and_or] at someDigit
      have written := IsWrittenBy.pointed isWhole isFraction someDigit isExponent
      rwa [List.takeWhile_append_dropWhile] at written
    · intro someDigit isExponent
      have run : DigitRun whole := ⟨by simpa using someDigit, isWhole⟩
      exact .whole run isExponent
  · intro isWritten
    cases isWritten with
    | whole run isExponent =>
      rw [numeral?_whole run isExponent.first.1 isExponent.first.2,
        exponent?_eq_some_iff.2 isExponent]
      rfl
    | pointed isWhole isFraction someDigit isExponent =>
      rw [numeral?_pointed isWhole isFraction someDigit isExponent.first.1,
        exponent?_eq_some_iff.2 isExponent]
      rfl

/-- The exponent part of a numeral is taken as it is. -/
theorem ExponentIsWrittenBy.kept {exponent : Int} {rest : Text}
    (isExponent : ExponentIsWrittenBy exponent rest) : Within isKept rest := by
  cases isExponent with
  | absent => exact within_nil
  | @present mark sign digits negative isMark isSign run =>
    have mark : isKept mark = true := by
      rcases isMark with rfl | rfl <;> decide
    exact within_cons.2 ⟨mark, within_append.2 ⟨isSign.kept, within_isKept run.digits⟩⟩

/-- The text of a numeral is taken as it is. -/
theorem IsWrittenBy.kept {numeral : Numeral} {text : Text} (isWritten : numeral.IsWrittenBy text) :
    Within isKept text := by
  cases isWritten with
  | whole run isExponent =>
    exact within_append.2 ⟨within_isKept run.digits, isExponent.kept⟩
  | pointed isWhole isFraction someDigit isExponent =>
    have point : isKept (.scalar '.') = true := by decide
    exact within_append.2 ⟨within_isKept isWhole,
      within_cons.2 ⟨point, within_append.2 ⟨within_isKept isFraction, isExponent.kept⟩⟩⟩

/-- The text of a numeral starts with a digit or a point. -/
theorem IsWrittenBy.first {numeral : Numeral} {text : Text} (isWritten : numeral.IsWrittenBy text) :
    ∃ c rest, text = c :: rest ∧ (isAsciiDigit c = true ∨ c = .scalar '.') := by
  cases isWritten with
  | whole run isExponent =>
    obtain ⟨c, rest, same, digit⟩ := run.exists_cons _
    exact ⟨c, rest, same, .inl digit⟩
  | @pointed whole fraction rest exponent isWhole isFraction someDigit isExponent =>
    cases whole with
    | nil => exact ⟨_, _, rfl, .inr rfl⟩
    | cons c whole => exact ⟨c, _, rfl, .inl (within_cons.1 isWhole).1⟩

/-! ## The value -/

/-- The rational number that a numeral stands for. -/
def value (numeral : Numeral) : ℚ :=
  ((digitsValue numeral.whole : ℚ) +
    (digitsValue numeral.fraction : ℚ) / 10 ^ numeral.fraction.length) * 10 ^ numeral.exponent

/-- A numeral stands for its coefficient at its scale. -/
theorem value_eq (numeral : Numeral) :
    numeral.value = (numeral.coefficient : ℚ) * 10 ^ numeral.scale := by
  have shift : (10 : ℚ) ^ numeral.scale =
      10 ^ numeral.exponent / 10 ^ numeral.fraction.length := by
    rw [scale, zpow_sub₀ (by norm_num), zpow_natCast]
  rw [value, coefficient, ← cast_digitsValue_append, shift, div_mul_eq_mul_div, mul_div_assoc]

/-- A numeral stands for no negative number. -/
theorem value_nonneg (numeral : Numeral) : 0 ≤ numeral.value := by
  rw [value_eq]
  exact mul_nonneg (Nat.cast_nonneg _) (zpow_nonneg (by norm_num) _)

end ListQuery.Decimal.Numeral
