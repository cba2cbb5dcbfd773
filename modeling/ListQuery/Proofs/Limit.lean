import ListQuery.Limit
import ListQuery.Proofs.Number.Integer

/-!
# Limits written back

A limit that was asked for has at most nineteen digits, so its shortest text is a limit text as
well and asks for the same limit.
-/

namespace ListQuery.Limit

open Text

/-- A limit text is a sign and digits, and writes a number with so many digits. -/
theorem ofText?_eq_some_iff {raw : Text} {limit : Int} :
    ofText? raw = some limit ↔ ∃ negative digits, Integer.splitSign raw = (negative, digits) ∧
      DigitRun digits ∧ digits.length ≤ maxDigits ∧
      Integer.signed negative (digitsValue digits) = limit := by
  rcases split : Integer.splitSign raw with ⟨negative, digits⟩
  simp only [ofText?, split]
  constructor
  · intro read
    split at read
    · rename_i valid
      simp only [Bool.and_eq_true, decide_eq_true_eq] at valid
      cases read
      exact ⟨_, _, rfl, ⟨valid.1.1, List.all_eq_true.1 valid.1.2⟩, valid.2, rfl⟩
    · simp at read
  · rintro ⟨_, _, same, run, bounded, rfl⟩
    cases same
    have digitsOnly : digits.all isAsciiDigit = true := List.all_eq_true.2 run.digits
    simp [run.nonempty, digitsOnly, bounded]

/-- A number with few digits is the limit that its shortest text writes. -/
theorem ofText?_ofInt_of_small {limit : Int} (small : limit.natAbs < 10 ^ maxDigits) :
    ofText? (ofInt limit) = some limit := by
  have few : (ofNat limit.natAbs).length ≤ maxDigits := (length_ofNat_le_iff (by decide)).2 small
  refine ofText?_eq_some_iff.2
    ⟨_, _, Integer.splitSign_ofInt limit, digitRun_ofNat limit.natAbs, few, ?_⟩
  rw [digitsValue_ofNat, Integer.signed_natAbs]

/-- The shortest text of a limit is a limit text of it. -/
theorem ofText?_ofInt {raw : Text} {limit : Int} (read : ofText? raw = some limit) :
    ofText? (ofInt limit) = some limit := by
  obtain ⟨negative, digits, -, run, bounded, rfl⟩ := ofText?_eq_some_iff.1 read
  have magnitude : (Integer.signed negative (digitsValue digits)).natAbs = digitsValue digits := by
    cases negative <;> simp [Integer.signed]
  apply ofText?_ofInt_of_small
  rw [magnitude]
  exact Nat.lt_of_lt_of_le (digitsValue_lt run.digits) (Nat.pow_le_pow_right (by decide) bounded)

/-- The text that asks for a limit again: none if none was asked for. -/
def text (asked : Option Text) (limit : Int) : Option Text :=
  if asked.getD [] = [] then none else some (ofInt limit)

/-- A limit is read from its text. -/
theorem parse_text {bounds : LimitBounds} {asked : Option Text} {limit : Int}
    (read : parse bounds asked = .ok limit) : parse bounds (text asked limit) = .ok limit := by
  cases asked with
  | none => exact read
  | some raw =>
    by_cases blank : raw = []
    · subst blank
      exact read
    · have someText : ofInt limit ≠ [] := by
        unfold ofInt
        split
        · simp
        · exact (digitRun_ofNat _).nonempty
      simp only [parse, if_neg blank] at read
      split at read
      · simp at read
      · rename_i isLimit
        split at read
        · rename_i inside
          cases read
          simp [text, blank, parse, someText, ofText?_ofInt isLimit, inside]
        · simp at read

end ListQuery.Limit
