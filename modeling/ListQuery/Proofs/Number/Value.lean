import ListQuery.Number.Value
import ListQuery.Proofs.Number.Decimal

/-!
# Numbers read back

A number is read from its text again: integers within the limit of integer texts, and decimal
numbers in range that are not written by digits alone. The texts of the latter are no integer texts,
so neither kind is taken for the other.
-/

namespace ListQuery.Number

open Text

/-- The text of a number. -/
def text : Number → Text
  | integer value => ofInt value
  | decimal value => value.toText

/-- A text with a code point other than digits is read as the decimal number that it stands for. -/
theorem ofText?_of_writes {text : Text} {coefficient : Nat} {exponent : Int} {c : CodePoint}
    (writes : Decimal.Writes text coefficient exponent) (negative : Bool) (member : c ∈ text)
    (noDigit : isAsciiDigit c = false) (noUnderscore : c ≠ .scalar '_')
    (inRange : Decimal.InRange coefficient exponent) :
    ofText? (Decimal.signText negative ++ text) =
      some (.decimal (.finite negative coefficient exponent)) := by
  rw [ofText?, writes.integer?_eq_none negative member noDigit noUnderscore,
    writes.ofText?_signText negative, Decimal.finite?_of_inRange inRange]
  rfl

/-- An integer is read from its text. -/
theorem ofText?_text_integer {value : Int}
    (bounded : (ofNat value.natAbs).length ≤ Integer.maxDigits) :
    ofText? (integer value).text = some (.integer value) := by
  rw [ofText?, text, Integer.ofText?_ofInt bounded]

/-- A decimal number with an exponent is read from its text. -/
theorem ofText?_text_decimal {negative : Bool} {coefficient : Nat} {exponent : Int}
    (inRange : Decimal.InRange coefficient exponent) (fractional : exponent ≠ 0) :
    ofText? (decimal (.finite negative coefficient exponent)).text =
      some (.decimal (.finite negative coefficient exponent)) := by
  obtain ⟨body, same, writes, marked⟩ :=
    Decimal.exists_writes_toText negative coefficient exponent
  obtain ⟨c, member, noDigit, noUnderscore⟩ := marked fractional
  rw [text, same]
  exact ofText?_of_writes writes negative member noDigit noUnderscore inRange

end ListQuery.Number
