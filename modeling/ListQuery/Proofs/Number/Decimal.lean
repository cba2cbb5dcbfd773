import ListQuery.Number.Decimal
import ListQuery.Proofs.Number.Integer

/-!
# Decimal texts read back

The text of a decimal number reads back as that number, coefficient and exponent included, whether
it is positional or scientific (`ofText?_toText`). A reader of numbers takes a text apart into a
sign, two runs of digits and an exponent; `Writes` says which coefficient and which exponent a text
without a sign stands for.
-/

namespace ListQuery.Decimal

open Text

/-! ## Numerals -/

/-- An exponent reads back. -/
theorem exponent?_exponentText (exponent : Int) :
    Numeral.exponent? (exponentText exponent) = some exponent := by
  have run := digitRun_ofNat exponent.natAbs
  have digits : (ofNat exponent.natAbs).all isAsciiDigit = true := List.all_eq_true.2 run.digits
  have signed := Integer.signed_natAbs exponent
  by_cases negative : exponent < 0
  · simp only [negative, decide_true] at signed
    simp [Numeral.exponent?, exponentText, Integer.splitSign, negative, run.nonempty, digits,
      signed]
  · simp only [negative, decide_false] at signed
    simp [Numeral.exponent?, exponentText, Integer.splitSign, negative, run.nonempty, digits,
      signed]

/-- A run of digits without a point behind it is a whole numeral. -/
theorem numeral?_whole {whole rest : Text} (run : DigitRun whole)
    (ends : StopsAt isAsciiDigit rest) (noPoint : rest.head? ≠ some (.scalar '.')) :
    Numeral.ofText? (whole ++ rest) = (Numeral.exponent? rest).map fun exponent =>
      ⟨whole, [], exponent⟩ := by
  have unsplit : Numeral.splitFraction rest = ([], rest) := by
    unfold Numeral.splitFraction
    split
    · simp at noPoint
    · rfl
  simp [Numeral.ofText?, takeWhile_run run.digits ends, dropWhile_run run.digits ends, unsplit,
    run.nonempty]

/-- Two runs of digits around a point, one of which may be empty, are a numeral. -/
theorem numeral?_pointed {whole fraction rest : Text} (isWhole : Within isAsciiDigit whole)
    (isFraction : Within isAsciiDigit fraction) (nonempty : whole ≠ [] ∨ fraction ≠ [])
    (ends : StopsAt isAsciiDigit rest) :
    Numeral.ofText? (whole ++ CodePoint.scalar '.' :: (fraction ++ rest)) =
      (Numeral.exponent? rest).map fun exponent => ⟨whole, fraction, exponent⟩ := by
  have point : StopsAt isAsciiDigit (CodePoint.scalar '.' :: (fraction ++ rest)) :=
    stopsAt_cons.2 (by decide)
  have someDigit : ¬ (whole = [] ∧ fraction = []) := by tauto
  simp only [Numeral.ofText?, takeWhile_run isWhole point, dropWhile_run isWhole point,
    Numeral.splitFraction, takeWhile_run isFraction ends, dropWhile_run isFraction ends]
  simp [someDigit]

/-! ## Texts of decimal numbers -/

/-- A text that is taken as it is is read without its sign. -/
theorem ofText?_of_isKept {text : Text} (kept : Within isKept text) :
    ofText? text = unsigned? (Integer.splitSign text).1 (Integer.splitSign text).2 := by
  have noUnderscore : text.filter (· ≠ CodePoint.scalar '_') = text :=
    List.filter_eq_self.2 fun c member => decide_eq_true (isKept_iff.1 (kept c member)).2.2
  rw [ofText?, trim_of_bare (Integer.bare_of_isKept kept), noUnderscore, numeral?_of_isKept kept]
  rfl

/-- A text without a sign stands for a coefficient and an exponent. -/
structure Writes (text : Text) (coefficient : Nat) (exponent : Int) : Prop where
  starts : ∃ c rest, text = c :: rest ∧ isAsciiDigit c = true
  kept : Within isKept text
  reads : ∃ numeral, Numeral.ofText? text = some numeral ∧ numeral.coefficient = coefficient ∧
    numeral.scale = exponent

/-- No word for a special number starts with a digit. -/
theorem unsigned?_of_digit {c : CodePoint} {rest : Text} (negative : Bool)
    (digit : isAsciiDigit c = true) :
    unsigned? negative (c :: rest) = (Numeral.ofText? (c :: rest)).bind fun numeral =>
      finite? negative numeral.coefficient numeral.scale := by
  have noLetter : ∀ letter : CodePoint, isAsciiDigit letter = false → c.toAsciiLower ≠ letter := by
    rintro letter noDigit same
    rw [toAsciiLower_of_digit digit] at same
    simp [← same, digit] at noDigit
  have noI := noLetter 'i' (by decide)
  have noN := noLetter 'n' (by decide)
  have noS := noLetter 's' (by decide)
  simp [unsigned?, nan?, afterWord?, noI, noN, noS]

namespace Writes

variable {text : Text} {coefficient : Nat} {exponent : Int}
  (writes : Writes text coefficient exponent)
include writes

/-- A sign is split off a text that stands for a number. -/
theorem splitSign_signText (negative : Bool) :
    Integer.splitSign (signText negative ++ text) = (negative, text) := by
  obtain ⟨c, rest, same, digit⟩ := writes.starts
  cases negative with
  | true => rfl
  | false =>
    rw [same]
    exact Integer.splitSign_of_digit digit

/-- A text that stands for a number is taken as it is, also behind a sign. -/
theorem kept_signText (negative : Bool) : Within isKept (signText negative ++ text) := by
  have sign : Within isKept (signText negative) := by
    cases negative <;> decide
  exact within_append.2 ⟨sign, writes.kept⟩

/-- What a text stands for is read from it behind a sign, if it is in range. -/
theorem ofText?_signText (negative : Bool) :
    ofText? (signText negative ++ text) = finite? negative coefficient exponent := by
  obtain ⟨c, rest, same, digit⟩ := writes.starts
  obtain ⟨numeral, reads, isCoefficient, isExponent⟩ := writes.reads
  rw [ofText?_of_isKept (writes.kept_signText negative), writes.splitSign_signText negative, same,
    unsigned?_of_digit negative digit, ← same, reads, ← isCoefficient, ← isExponent]
  rfl

/-- A text that has a code point other than digits is no integer text. -/
theorem integer?_eq_none (negative : Bool) {c : CodePoint} (member : c ∈ text)
    (noDigit : isAsciiDigit c = false) (noUnderscore : c ≠ .scalar '_') :
    Integer.ofText? (signText negative ++ text) = none := by
  rw [Integer.ofText?_of_isKept (writes.kept_signText negative),
    writes.splitSign_signText negative, Integer.digits?_of_outside member noDigit noUnderscore]
  rfl

end Writes

/-- Digits with an exponent stand for their number. -/
theorem writes_whole {whole rest : Text} {exponent : Int} (run : DigitRun whole)
    (ends : StopsAt isAsciiDigit rest) (noPoint : rest.head? ≠ some (.scalar '.'))
    (kept : Within isKept rest) (reads : Numeral.exponent? rest = some exponent) :
    Writes (whole ++ rest) (digitsValue whole) exponent where
  starts := run.exists_cons rest
  kept := within_append.2 ⟨within_isKept run.digits, kept⟩
  reads := by
    refine ⟨⟨whole, [], exponent⟩, ?_, ?_, ?_⟩
    · rw [numeral?_whole run ends noPoint, reads]
      rfl
    · simp [Numeral.coefficient]
    · simp [Numeral.scale]

/-- Digits around a point, with an exponent, stand for the number of all digits, and the digits
behind the point lower the exponent. -/
theorem writes_pointed {whole fraction rest : Text} {exponent : Int} (run : DigitRun whole)
    (isFraction : Within isAsciiDigit fraction) (ends : StopsAt isAsciiDigit rest)
    (kept : Within isKept rest) (reads : Numeral.exponent? rest = some exponent) :
    Writes (whole ++ CodePoint.scalar '.' :: (fraction ++ rest)) (digitsValue (whole ++ fraction))
      (exponent - fraction.length) where
  starts := run.exists_cons _
  kept := by
    have point : isKept (.scalar '.') = true := by decide
    have isKeptFraction := within_isKept isFraction
    exact within_append.2 ⟨within_isKept run.digits,
      within_cons.2 ⟨point, within_append.2 ⟨isKeptFraction, kept⟩⟩⟩
  reads := by
    refine ⟨⟨whole, fraction, exponent⟩, ?_, rfl, rfl⟩
    rw [numeral?_pointed run.digits isFraction (.inl run.nonempty) ends, reads]
    rfl

/-- Digits with a point so many places from the right stand for the number of the digits and for
these places. -/
theorem writes_positional {digits : Text} (run : DigitRun digits) (places : Nat) :
    Writes (positional digits places) (digitsValue digits) (-places) := by
  have noExponent : Numeral.exponent? [] = some 0 := rfl
  unfold positional
  split
  · rename_i none
    simpa [none] using writes_whole run stopsAt_nil (by simp) within_nil noExponent
  split
  · rename_i some inside
    have front : DigitRun (digits.take (digits.length - places)) := by
      refine ⟨List.length_pos_iff.1 ?_, fun c member => run.digits c (List.mem_of_mem_take member)⟩
      rw [List.length_take]
      omega
    have back : Within isAsciiDigit (digits.drop (digits.length - places)) :=
      fun c member => run.digits c (List.mem_of_mem_drop member)
    have writes := writes_pointed front back stopsAt_nil within_nil noExponent
    have behind : (0 - (digits.length - (digits.length - places) : Nat) : Int) = -places := by
      omega
    rwa [List.append_nil, List.take_append_drop, List.length_drop, behind] at writes
  · rename_i some outside
    have zero : DigitRun [CodePoint.scalar '0'] := ⟨by simp, by decide⟩
    have back : Within isAsciiDigit
        (List.replicate (places - digits.length) (CodePoint.scalar '0') ++ digits) := by
      exact within_append.2 ⟨within_replicate rfl _, run.digits⟩
    have writes := writes_pointed zero back stopsAt_nil within_nil noExponent
    have value : digitsValue ([CodePoint.scalar '0'] ++
        (List.replicate (places - digits.length) (CodePoint.scalar '0') ++ digits)) =
          digitsValue digits :=
      digitsValue_zeros (places - digits.length + 1) digits
    have behind : (0 - (places - digits.length + digits.length : Nat) : Int) = -places := by
      omega
    rw [List.append_nil, value, List.length_append, List.length_replicate, behind] at writes
    exact writes

/-- Digits in scientific form stand for their number, and the first one for that power of ten. -/
theorem writes_scientific {digits : Text} (run : DigitRun digits) (power : Int) :
    Writes (scientific digits power) (digitsValue digits) (power - (digits.length - 1)) := by
  have reads := exponent?_exponentText power
  have ends : StopsAt isAsciiDigit (exponentText power) := stopsAt_cons.2 (by decide)
  have noPoint : (exponentText power).head? ≠ some (.scalar '.') := by simp [exponentText]
  have kept : Within isKept (exponentText power) := by
    have mark : isKept (.scalar 'E') = true := by decide
    have digits := within_isKept (digitRun_ofNat power.natAbs).digits
    refine within_cons.2 ⟨mark, within_cons.2 ⟨?_, digits⟩⟩
    split <;> decide
  match digits, run with
  | [], run => exact absurd rfl run.nonempty
  | [digit], run =>
    simpa [scientific] using writes_whole run ends noPoint kept reads
  | digit :: next :: more, run =>
    obtain ⟨first, others⟩ := within_cons.1 run.digits
    have front : DigitRun [digit] := ⟨by simp, by simpa using first⟩
    have writes := writes_pointed front others ends kept reads
    have behind : power - (next :: more).length =
        power - (((digit :: next :: more).length : Int) - 1) := by
      simp
    rw [behind] at writes
    exact writes

/-- A positional text of a number that has places holds a point. -/
theorem point_mem_positional {digits : Text} {places : Nat} (some : places ≠ 0) :
    CodePoint.scalar '.' ∈ positional digits places := by
  rw [positional, if_neg some]
  split <;> simp

/-- A scientific text holds the mark of its exponent. -/
theorem mark_mem_scientific (digits : Text) (power : Int) :
    CodePoint.scalar 'E' ∈ scientific digits power := by
  match digits with
  | [] => simp [scientific, exponentText]
  | [digit] => simp [scientific, exponentText]
  | digit :: next :: more => simp [scientific, exponentText]

/-- The text of a decimal number is its sign and a text that stands for its coefficient and
exponent. Unless the exponent is zero, that is not a text of digits alone. -/
theorem exists_writes_toText (negative : Bool) (coefficient : Nat) (exponent : Int) :
    ∃ text, (finite negative coefficient exponent).toText = signText negative ++ text ∧
      Writes text coefficient exponent ∧
      (exponent ≠ 0 → ∃ c ∈ text, isAsciiDigit c = false ∧ c ≠ .scalar '_') := by
  have run := digitRun_ofNat coefficient
  by_cases plain : exponent ≤ 0 ∧ -6 ≤ leadingPower coefficient exponent
  · have writes := writes_positional run exponent.natAbs
    have behind : -(exponent.natAbs : Int) = exponent := by omega
    rw [digitsValue_ofNat, behind] at writes
    refine ⟨_, by rw [toText, if_pos plain], writes, fun fractional => ?_⟩
    exact ⟨_, point_mem_positional (by omega), by decide, by decide⟩
  · have writes := writes_scientific run (leadingPower coefficient exponent)
    have behind : leadingPower coefficient exponent - ((ofNat coefficient).length - 1) =
        exponent := by
      unfold leadingPower
      omega
    rw [digitsValue_ofNat, behind] at writes
    refine ⟨_, by rw [toText, if_neg plain], writes, fun _ => ?_⟩
    exact ⟨_, mark_mem_scientific _ _, by decide, by decide⟩

/-- A decimal number is in the range of what can be read. -/
def InRange (coefficient : Nat) (exponent : Int) : Prop :=
  leadingPower coefficient exponent ≤ maxLeadingPower ∧ minExponent ≤ exponent

/-- The finite number with given parts in range. -/
theorem finite?_of_inRange {negative : Bool} {coefficient : Nat} {exponent : Int}
    (inRange : InRange coefficient exponent) :
    finite? negative coefficient exponent = some (.finite negative coefficient exponent) :=
  if_pos inRange

/-- The text of a decimal number in range reads back as that number. -/
theorem ofText?_toText {negative : Bool} {coefficient : Nat} {exponent : Int}
    (inRange : InRange coefficient exponent) :
    ofText? (finite negative coefficient exponent).toText =
      some (.finite negative coefficient exponent) := by
  obtain ⟨text, same, writes, -⟩ := exists_writes_toText negative coefficient exponent
  rw [same, writes.ofText?_signText, finite?_of_inRange inRange]

end ListQuery.Decimal
