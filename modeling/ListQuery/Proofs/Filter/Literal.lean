import ListQuery.Filter.Parser
import ListQuery.Proofs.Filter.Grammar
import ListQuery.Proofs.Number.Decimal
import ListQuery.Proofs.Text.Quoted

/-!
# Which tokens are literals

Every number of the grammar passes the bounds on digits (`isBoundedNumber_iff`) and is a number
literal, so a literal token of a filter is refused only if it is double-quoted.
-/

namespace ListQuery.Filter

open Text

namespace Tree

/-- A digit run within the limit. -/
theorem isDigitRun_iff {text : Text} :
    isDigitRun text = true ↔ DigitRun text ∧ text.length ≤ 15 := by
  constructor
  · intro run
    simp only [isDigitRun, Bool.and_eq_true, decide_eq_true_eq] at run
    exact ⟨⟨run.1.1, fun c member => List.all_eq_true.1 run.1.2 c member⟩, run.2⟩
  · rintro ⟨run, bounded⟩
    simp only [isDigitRun, Bool.and_eq_true, decide_eq_true_eq]
    exact ⟨⟨run.nonempty, List.all_eq_true.2 run.digits⟩, bounded⟩

/-- The numbers of the grammar are those within the bounds on digits. -/
theorem isBoundedNumber_iff {text : Text} : isBoundedNumber text = true ↔ IsNumber text := by
  constructor
  · intro bounded
    have parts := @List.takeWhile_append_dropWhile _ isAsciiDigit text
    rw [isBoundedNumber, Bool.and_eq_true, isDigitRun_iff] at bounded
    obtain ⟨⟨run, short⟩, behind⟩ := bounded
    split at behind
    · rename_i rest
      rw [rest, List.append_nil] at parts
      rw [← parts]
      exact .whole run short
    · rename_i c fraction rest
      simp only [Bool.and_eq_true, decide_eq_true_eq, isDigitRun_iff] at behind
      obtain ⟨rfl, fractionRun, fractionShort⟩ := behind
      rw [← parts, rest]
      exact .fractional run short fractionRun fractionShort
  · intro number
    cases number with
    | whole run bounded =>
      have ends : StopsAt isAsciiDigit [] := stopsAt_nil
      have taken := takeWhile_run run.digits ends
      have dropped := dropWhile_run run.digits ends
      rw [List.append_nil] at taken dropped
      simp [isBoundedNumber, taken, dropped, isDigitRun_iff, run, bounded]
    | fractional run bounded fractionRun fractionBounded =>
      rename_i whole fraction
      have ends : StopsAt isAsciiDigit (CodePoint.scalar '.' :: fraction) :=
        stopsAt_cons.2 (by decide)
      simp [isBoundedNumber, takeWhile_run run.digits ends, dropWhile_run run.digits ends,
        isDigitRun_iff, run, bounded, fractionRun, fractionBounded]

end Tree

/-! ## Numbers -/

/-- Readers of numbers take a number of the grammar as it is. -/
theorem IsNumber.kept {text : Text} (number : IsNumber text) : Within isKept text := by
  cases number with
  | whole run bounded => exact within_isKept run.digits
  | fractional run bounded fractionRun fractionBounded =>
    have point : isKept (.scalar '.') = true := by decide
    exact within_append.2
      ⟨within_isKept run.digits, within_cons.2 ⟨point, within_isKept fractionRun.digits⟩⟩

/-- A number starts with a digit. -/
theorem IsNumber.first {text : Text} (number : IsNumber text) :
    ∃ c rest, text = c :: rest ∧ isAsciiDigit c = true := by
  cases number with
  | whole run bounded => simpa using run.exists_cons []
  | fractional run bounded fractionRun fractionBounded => exact run.exists_cons _

/-- Two runs of digits around a point stand for the number of all digits, lowered by the digits
behind the point. -/
theorem writes_fractional {whole fraction : Text} (run : DigitRun whole)
    (fractionRun : DigitRun fraction) :
    Decimal.Writes (whole ++ CodePoint.scalar '.' :: fraction) (digitsValue (whole ++ fraction))
      (-fraction.length) := by
  have noExponent : Decimal.Numeral.exponent? [] = some 0 := rfl
  simpa using Decimal.writes_pointed run fractionRun.digits stopsAt_nil within_nil noExponent

/-- A coefficient of few digits at a scale that is not positive is far below the overflow
threshold. -/
theorem isInRange_of_small {coefficient count : Nat} (scale : Int)
    (small : coefficient < 10 ^ count) (positive : 0 < count) (short : count ≤ 308)
    (fractional : scale ≤ 0) : Number.isInRange coefficient scale = true := by
  have digits : (ofNat coefficient).length ≤ count := (length_ofNat_le_iff positive).2 small
  have below : Decimal.leadingPower coefficient scale < 308 := by
    unfold Decimal.leadingPower
    omega
  simp [Number.isInRange, below]

/-- A number of the grammar is a number literal. -/
theorem IsNumber.isNumber {text : Text} (number : IsNumber text) :
    Number.isNumber text = true := by
  have noUnderscore : CodePoint.scalar '_' ∉ text :=
    fun found => (isKept_iff.1 (number.kept _ found)).2.2 rfl
  have trimmed : trim text = text := trim_of_bare (Integer.bare_of_isKept number.kept)
  obtain ⟨c, rest, same, digit⟩ := number.first
  have ascii : numeral? text = some text := numeral?_of_isKept number.kept
  have unsigned : Integer.splitSign text = (false, text) := same ▸ Integer.splitSign_of_digit digit
  have nonempty : text ≠ [] := by simp [same]
  have denotes : ((Integer.ofText? text).isSome || Number.isFiniteDecimal text) = true := by
    cases number with
    | whole run bounded =>
      have fits : text.length ≤ Integer.maxDigits := Nat.le_trans bounded (by decide)
      simp [Integer.ofText?_of_digitRun run fits]
    | @fractional whole fraction run bounded fractionRun fractionBounded =>
      obtain ⟨numeral, reads, isCoefficient, isScale⟩ := (writes_fractional run fractionRun).reads
      have inRange := isInRange_of_small (-fraction.length)
        (digitsValue_lt (run.append fractionRun.digits).digits)
        (List.length_pos_iff.2 (run.append fractionRun.digits).nonempty)
        (by rw [List.length_append]; omega) (by omega)
      simp [Number.isFiniteDecimal, ascii, unsigned, reads, isCoefficient, isScale, inRange]
  simpa [Number.isNumber, nonempty, trimmed, noUnderscore] using denotes

/-- A text that starts with a double quote is no number literal. -/
theorem isNumber_of_doubleQuote (body : Text) :
    Number.isNumber (CodePoint.scalar '\x22' :: body) = false := by
  have noNumber : ∀ rest : Text,
      Integer.digits? (CodePoint.scalar '\x22' :: rest) = none ∧
        Decimal.Numeral.ofText? (CodePoint.scalar '\x22' :: rest) = none := by
    intro rest
    constructor
    · cases rest <;> rfl
    · rfl
  have noSign : ∀ rest : Text, Integer.splitSign (CodePoint.scalar '\x22' :: rest) =
      (false, CodePoint.scalar '\x22' :: rest) := fun _ => rfl
  have first : numeralChar? (CodePoint.scalar '\x22') = some (.scalar '\x22') := rfl
  cases ascii : numeral? body with
  | none =>
    simp only [numeral?] at ascii
    simp [Number.isNumber, Integer.ofText?, Number.isFiniteDecimal, numeral?, first, ascii]
  | some rest =>
    have noBlank : isAsciiBlank (CodePoint.scalar '\x22') = false := by decide
    simp only [numeral?] at ascii
    simp [Number.isNumber, Integer.ofText?, Number.isFiniteDecimal, numeral?, first, ascii,
      noBlank, dropTrailing_cons noBlank, noSign, noNumber]

/-! ## Literals -/

namespace Literal

/-- A token is a string literal exactly if it is the quoted form of a text. -/
theorem ofToken?_eq_string_iff {token raw value : Text} :
    ofToken? token = some (.string raw value) ↔ token = Quoted.encode value ∧ raw = token := by
  rw [← Quoted.decode_eq_some_iff, ofToken?]
  cases Quoted.decode token with
  | some text =>
    simp only [Option.some.injEq, string.injEq]
    tauto
  | none =>
    simp only [reduceCtorEq, false_and, iff_false]
    split <;> simp

/-- The quoted form of a text is a string literal. -/
theorem ofToken?_encode (value : Text) :
    ofToken? (Quoted.encode value) = some (.string (Quoted.encode value) value) :=
  ofToken?_eq_string_iff.2 ⟨rfl, rfl⟩

/-- A number of the grammar is its own literal. -/
theorem ofToken?_number {raw : Text} (number : IsNumber raw) :
    ofToken? raw = some (.number raw) := by
  obtain ⟨c, rest, same, digit⟩ := number.first
  have noQuote : c ≠ Quoted.quote := ne_of_class digit (by decide)
  have undecoded : Quoted.decode raw = none := by simp [same, Quoted.decode, noQuote]
  simp [ofToken?, undecoded, number.isNumber]

/-- A double-quoted token is no literal. -/
theorem ofToken?_doubleQuoted (body : Text) :
    ofToken? (CodePoint.scalar '\x22' :: body) = none := by
  have undecoded : Quoted.decode (CodePoint.scalar '\x22' :: body) = none := rfl
  simp [ofToken?, undecoded, isNumber_of_doubleQuote]

end Literal

/-- A condition is read from a clause exactly if the literal of the clause is read. -/
theorem Condition.ofClause_eq_ok_iff {clause : Clause} {condition : Condition} :
    Condition.ofClause clause = .ok condition ↔
      ∃ literal, Literal.ofToken? clause.literal = some literal ∧
        condition = ⟨clause.column, clause.comparator, literal⟩ := by
  unfold Condition.ofClause
  split
  · rename_i literal isLiteral
    simp [isLiteral]
    exact eq_comm
  · rename_i isLiteral
    simp [isLiteral]

end ListQuery.Filter
