import Mathlib.Algebra.Order.Group.Abs
import ListQuery.Proofs.Number.Range

/-!
# Which tokens are number literals

A token is a number literal if it writes an integer or a decimal number, with digits of any script,
and nothing stands around it or between its digits. An integer is limited in the number of its
digits and not in its size, a decimal number in its size and not in the number of its digits, so a
long run of digits may be the one or the other. `isNumber_iff_writes` is the exact condition.
-/

namespace ListQuery.Number

open Text

/-! ## What a token writes -/

/-- A token writes an integer: a sign and at most 4300 digits. -/
inductive WritesInteger : Text → Int → Prop where
  | intro {token sign digits : Text} {negative : Bool} (plain : plainDigits token = sign ++ digits)
      (isSign : Integer.IsSign negative sign) (run : DigitRun digits)
      (bounded : digits.length ≤ 4300) :
      WritesInteger token (Integer.signed negative (digitsValue digits))

/-- A token writes a decimal number: a sign and a numeral. -/
inductive WritesDecimal : Text → Bool → Decimal.Numeral → Prop where
  | intro {token sign body : Text} {negative : Bool} {numeral : Decimal.Numeral}
      (plain : plainDigits token = sign ++ body) (isSign : Integer.IsSign negative sign)
      (isBody : numeral.IsWrittenBy body) : WritesDecimal token negative numeral

/-- The rational number that a sign and a numeral stand for. -/
def signedValue (negative : Bool) (numeral : Decimal.Numeral) : ℚ :=
  (if negative then -1 else 1) * numeral.value

/-- The sign of a number is not part of its magnitude. -/
theorem abs_signedValue (negative : Bool) (numeral : Decimal.Numeral) :
    |signedValue negative numeral| = numeral.value := by
  have magnitude := abs_of_nonneg numeral.value_nonneg
  cases negative with
  | false => simpa [signedValue] using magnitude
  | true => simpa [signedValue, abs_neg] using magnitude

/-! ## Integers -/

/-- Groups of digits without an underscore between them are one group. -/
theorem exists_single {groups : List Text} (nonempty : groups ≠ [])
    (noUnderscore : CodePoint.scalar '_' ∉ join [.scalar '_'] groups) :
    ∃ digits, groups = [digits] := by
  match groups, nonempty with
  | [digits], _ => exact ⟨digits, rfl⟩
  | first :: second :: others, _ =>
    refine absurd ?_ noUnderscore
    rw [join, List.intercalate_cons_cons]
    simp

/-- An integer text without blanks at its ends and without underscores is a sign and digits. -/
theorem integer_writes_iff {token : Text} {value : Int} (bare : Bare isBlank token)
    (noUnderscore : CodePoint.scalar '_' ∉ token) :
    Integer.Writes token value ↔ WritesInteger token value := by
  constructor
  · rintro ⟨isFront, isBack, plain, isSign, some, runs, bounded⟩
    rename_i front body back sign negative groups
    have noFront : front = [] := by
      cases front with
      | nil => rfl
      | cons c rest =>
        have outside : isBlank c = false := bare.front c (by simp)
        simp [isBlank_of_isNumeralBlank (isFront c (by simp))] at outside
    have noBack : back = [] := by
      cases back using List.reverseRecOn with
      | nil => rfl
      | append_singleton rest c =>
        have outside : isBlank c = false := bare.back c (by simp)
        simp [isBlank_of_isNumeralBlank (isBack c (by simp))] at outside
    have plainly : CodePoint.scalar '_' ∉ join [.scalar '_'] groups := by
      intro found
      have member : CodePoint.scalar '_' ∈ plainDigits body := plain ▸ List.mem_append_right _ found
      obtain ⟨c, isMember, isPlain⟩ := List.mem_map.1 member
      have same := eq_of_plainDigit isPlain (by decide)
      exact noUnderscore (by simp [← same, isMember])
    obtain ⟨digits, rfl⟩ := exists_single some plainly
    have single : [digits].flatten = digits := by simp
    rw [single] at bounded ⊢
    rw [noFront, noBack, List.nil_append, List.append_nil]
    exact .intro (by simpa [join] using plain) isSign (runs digits (by simp)) bounded
  · rintro ⟨plain, isSign, run, bounded⟩
    rename_i sign digits negative
    have written : Integer.Writes ([] ++ token ++ [])
        (Integer.signed negative (digitsValue [digits].flatten)) :=
      .intro within_nil within_nil (by simpa [join] using plain) isSign (by simp)
        (by simpa using run)
        (by simpa [Integer.maxDigits] using bounded)
    simpa using written

/-! ## Decimal numbers -/

/-- A decimal number is read from a token in two steps, its sign and its numeral. -/
theorem writesDecimal_iff {token : Text} {negative : Bool} {numeral : Decimal.Numeral} :
    WritesDecimal token negative numeral ↔
      ∃ ascii, numeral? token = some ascii ∧ (Integer.splitSign ascii).1 = negative ∧
        Decimal.Numeral.ofText? (Integer.splitSign ascii).2 = some numeral := by
  constructor
  · rintro ⟨plain, isSign, isBody⟩
    rename_i sign body
    obtain ⟨c, rest, same, first⟩ := isBody.first
    have unsigned : StopsAt Integer.isSignMark body := by
      rw [same]
      rcases first with digit | rfl
      · exact Integer.stopsAt_of_digit digit
      · exact stopsAt_cons.2 (by decide)
    have kept : Within isKept (sign ++ body) := within_append.2 ⟨isSign.kept, isBody.kept⟩
    have split := Integer.splitSign_append isSign unsigned
    refine ⟨sign ++ body, (numeral?_eq_some_iff_of_isKept kept).2 plain, ?_, ?_⟩
    · rw [split]
    · rw [split]
      exact Decimal.Numeral.ofText?_eq_some_iff.2 isBody
  · rintro ⟨ascii, isAscii, rfl, read⟩
    have isBody := Decimal.Numeral.ofText?_eq_some_iff.1 read
    obtain ⟨sign, isSign, same⟩ := Integer.exists_sign ascii
    have kept : Within isKept ascii := by
      rw [same]
      exact within_append.2 ⟨isSign.kept, isBody.kept⟩
    exact .intro (((numeral?_eq_some_iff_of_isKept kept).1 isAscii).trans same) isSign isBody

/-- A token writes one decimal number at most. -/
theorem WritesDecimal.unique {token : Text} {negative other : Bool}
    {numeral otherNumeral : Decimal.Numeral} (writes : WritesDecimal token negative numeral)
    (writesOther : WritesDecimal token other otherNumeral) :
    other = negative ∧ otherNumeral = numeral := by
  obtain ⟨ascii, isAscii, rfl, read⟩ := writesDecimal_iff.1 writes
  obtain ⟨otherAscii, isOther, rfl, readOther⟩ := writesDecimal_iff.1 writesOther
  cases isAscii.symm.trans isOther
  exact ⟨rfl, Option.some.inj (readOther.symm.trans read)⟩

/-- A token is a finite decimal exactly if it writes a decimal number below the overflow
threshold. -/
theorem isFiniteDecimal_iff {token : Text} :
    isFiniteDecimal token = true ↔ ∃ negative numeral, WritesDecimal token negative numeral ∧
      |signedValue negative numeral| < 2 ^ 1024 - 2 ^ 970 := by
  simp only [abs_signedValue, Decimal.Numeral.value_eq, ← isInRange_iff, writesDecimal_iff]
  unfold isFiniteDecimal
  constructor
  · intro finite
    split at finite
    · rename_i ascii isAscii
      split at finite
      · rename_i numeral read
        exact ⟨_, numeral, ⟨ascii, isAscii, rfl, read⟩, finite⟩
      · cases finite
    · cases finite
  · rintro ⟨negative, numeral, ⟨ascii, isAscii, -, read⟩, finite⟩
    simp only [isAscii, read, finite]

/-! ## Number literals -/

/-- A number literal is not empty, has no blank at its ends and no underscore, and writes an integer
or a finite decimal. -/
theorem isNumber_iff {token : Text} :
    isNumber token = true ↔ token ≠ [] ∧ Bare isBlank token ∧ CodePoint.scalar '_' ∉ token ∧
      ((∃ value, WritesInteger token value) ∨ isFiniteDecimal token = true) := by
  have trimmed : trim token = token ↔ Bare isBlank token :=
    ⟨fun same => same ▸ bare_trim token, trim_of_bare⟩
  simp only [isNumber, Bool.and_eq_true, Bool.or_eq_true, decide_eq_true_eq, Bool.not_eq_true',
    List.contains_eq_mem, decide_eq_false_iff_not, trimmed, and_assoc]
  refine and_congr_right fun _ => and_congr_right fun bare => and_congr_right fun noUnderscore => ?_
  simp only [Option.isSome_iff_exists, Integer.ofText?_eq_some_iff,
    integer_writes_iff bare noUnderscore]

/-- A token is a number literal exactly if it has no underscore and no blank at its ends and
writes, with digits of any script, an integer of at most 4300 digits or a decimal number whose exact
value is below the overflow threshold of binary floating point with 64 bits. -/
theorem isNumber_iff_writes (token : Text) :
    isNumber token = true ↔
      CodePoint.scalar '_' ∉ token ∧ Bare isBlank token ∧
        ((∃ value, WritesInteger token value) ∨
          ∃ negative numeral, WritesDecimal token negative numeral ∧
            |signedValue negative numeral| < 2 ^ 1024 - 2 ^ 970) := by
  -- The empty token needs no case of its own: it writes nothing.
  have nonempty : (∃ value, WritesInteger token value) ∨
      (∃ negative numeral, WritesDecimal token negative numeral ∧
        |signedValue negative numeral| < 2 ^ 1024 - 2 ^ 970) → token ≠ [] := by
    rintro (⟨value, ⟨plain, isSign, run, bounded⟩⟩ | ⟨_, _, ⟨plain, isSign, isBody⟩, _⟩) rfl
    · exact run.nonempty (List.append_eq_nil_iff.1 plain.symm).2
    · obtain ⟨c, rest, same, -⟩ := isBody.first
      simp [plainDigits, same] at plain
  rw [isNumber_iff, isFiniteDecimal_iff]
  constructor
  · rintro ⟨-, bare, noUnderscore, writes⟩
    exact ⟨noUnderscore, bare, writes⟩
  · rintro ⟨noUnderscore, bare, writes⟩
    exact ⟨nonempty writes, bare, noUnderscore, writes⟩

end ListQuery.Number
