import Mathlib.Algebra.Group.Nat.Defs
import Mathlib.Data.List.Induction
import Mathlib.Tactic.Ring
import ListQuery.Proofs.Text.Run

/-!
# Digits and the numbers they write

The shortest run of digits with a value has that value, and a run of `n` digits writes a number
below `10 ^ n`. An ASCII text is its own numeral.
-/

namespace ListQuery.Text

/-- A digit is its own lower case. -/
theorem toAsciiLower_of_digit {c : CodePoint} (digit : isAsciiDigit c = true) :
    c.toAsciiLower = c := by
  cases c with
  | surrogate offset => rfl
  | scalar c =>
    have range := isAsciiDigit_iff.1 digit
    have noCapital : ¬ ('A'.val ≤ c.val ∧ c.val ≤ 'Z'.val) := by
      rintro ⟨least, -⟩
      have letter : 65 ≤ c.toNat := UInt32.le_iff_toNat_le.1 least
      simp only [CodePoint.toNat] at range
      omega
    exact congrArg CodePoint.scalar (dif_neg noCapital)

/-- The shortest run of digits with a value is a run of digits. -/
theorem digitRun_ofNat (value : Nat) : DigitRun (ofNat value) where
  nonempty := by simp [ofNat]
  digits := by
    intro c member
    obtain ⟨digit, isDigit, rfl⟩ := List.mem_map.1 member
    have range := Nat.isDigit_of_mem_toDigits (by decide) (by decide) isDigit
    simp only [Char.isDigit, Bool.and_eq_true, decide_eq_true_eq, ge_iff_le,
      UInt32.le_iff_toNat_le] at range
    exact isAsciiDigit_iff.2 range

/-- The shortest run of digits with a value has that value. -/
@[simp] theorem digitsValue_ofNat (value : Nat) : digitsValue (ofNat value) = value := by
  have read := @Nat.ofDigitChars_ten_toDigits value
  rw [Nat.ofDigitChars_eq_foldl] at read
  simpa [digitsValue, ofNat, List.foldl_map, CodePoint.toNat] using read

/-- A number has at most so many digits if it is below that power of ten. -/
theorem length_ofNat_le_iff {value count : Nat} (positive : 0 < count) :
    (ofNat value).length ≤ count ↔ value < 10 ^ count := by
  rw [ofNat, List.length_map, Nat.length_toDigits_le_iff (by decide) positive]

/-- Reading goes on with one more digit at the end. -/
theorem digitsValue_concat (digits : Text) (c : CodePoint) :
    digitsValue (digits ++ [c]) = 10 * digitsValue digits + (c.toNat - 48) := by
  simp [digitsValue]

/-- Zeros in front do not change what a run of digits writes. -/
theorem digitsValue_zeros (count : Nat) (digits : Text) :
    digitsValue (List.replicate count (CodePoint.scalar '0') ++ digits) = digitsValue digits := by
  induction count with
  | zero => rfl
  | succ count ih =>
    rw [← ih]
    rfl

/-- Digits in front of others write their number times a power of ten. -/
theorem digitsValue_append (front back : Text) :
    digitsValue (front ++ back) = digitsValue front * 10 ^ back.length + digitsValue back := by
  induction back using List.reverseRecOn with
  | nil => simp [digitsValue]
  | append_singleton back c ih =>
    rw [← List.append_assoc, digitsValue_concat, digitsValue_concat, ih, List.length_append,
      List.length_singleton, Nat.pow_succ]
    ring

/-- A run of digits writes a number below that power of ten. -/
theorem digitsValue_lt {digits : Text} (inside : Within isAsciiDigit digits) :
    digitsValue digits < 10 ^ digits.length := by
  induction digits using List.reverseRecOn with
  | nil => simp [digitsValue]
  | append_singleton digits c ih =>
    have front := ih fun d member => inside d (by simp [member])
    have last := isAsciiDigit_iff.1 (inside c (by simp))
    rw [digitsValue_concat, List.length_append, List.length_singleton, Nat.pow_succ]
    omega

/-- The shortest run of digits with the value of a run is no longer. -/
theorem DigitRun.length_ofNat_le {digits : Text} (run : DigitRun digits) :
    (ofNat (digitsValue digits)).length ≤ digits.length :=
  (length_ofNat_le_iff (List.length_pos_iff.2 run.nonempty)).2 (digitsValue_lt run.digits)

/-- An ASCII text is its own numeral. -/
theorem numeral?_of_ascii {text : Text} (ascii : ∀ c ∈ text, c.toNat < 128) :
    numeral? text = some text := by
  induction text with
  | nil => rfl
  | cons c text ih =>
    have rest := ih fun d member => ascii d (by simp [member])
    simp only [numeral?] at rest
    simp [numeral?, numeralChar?, ascii c (by simp), rest]

/-! ## Code points of numbers -/

/-- A code point that readers of numbers take as it is: in ASCII, no blank and no underscore. -/
def isKept (c : CodePoint) : Bool :=
  c.toNat < 128 && ! isBlank c && c ≠ '_'

/-- The code points that are taken as they are. -/
theorem isKept_iff {c : CodePoint} :
    isKept c = true ↔ c.toNat < 128 ∧ isBlank c = false ∧ c ≠ .scalar '_' := by
  simp [isKept, and_assoc]

/-- Runs of digits are taken as they are. -/
theorem within_isKept {digits : Text} (inside : Within isAsciiDigit digits) :
    Within isKept digits := by
  intro c member
  have range := isAsciiDigit_iff.1 (inside c member)
  refine isKept_iff.2 ⟨by omega, ?_, ne_of_class (inside c member) (by decide)⟩
  simp [isBlank]
  omega

/-- A text that is taken as it is is its own numeral. -/
theorem numeral?_of_isKept {text : Text} (kept : Within isKept text) :
    numeral? text = some text :=
  numeral?_of_ascii fun c member => (isKept_iff.1 (kept c member)).1

end ListQuery.Text
