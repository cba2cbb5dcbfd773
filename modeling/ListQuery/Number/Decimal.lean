import ListQuery.Number.Integer

/-!
# Decimal numbers

A decimal number keeps the coefficient and the exponent it was written with, so `2.50` and
`2.5` are different values and no digit is ever rounded away. The text form is positional while
it needs no padding beyond six leading zeros and scientific elsewhere, and it reads back as the
same number.
-/

namespace ListQuery

/-- A decimal number, an infinity, or a not-a-number with its diagnostic digits. -/
inductive Decimal where
  | finite (negative : Bool) (coefficient : Nat) (exponent : Int)
  | infinite (negative : Bool)
  | nan (negative signaling : Bool) (diagnostic : Nat)
deriving Repr, DecidableEq

namespace Decimal

open Text

/-- The digits of an unsigned decimal numeral on both sides of its point, and its exponent. -/
structure Numeral where
  whole : Text
  fraction : Text
  exponent : Int
deriving Repr, DecidableEq

namespace Numeral

/-- The exponent part of a numeral: nothing, or `e` or `E`, a sign and at least one digit. -/
def exponent? : Text → Option Int
  | [] => some 0
  | mark :: rest =>
    if mark = 'e' || mark = 'E' then
      let (negative, digits) := Integer.splitSign rest
      if digits ≠ [] && digits.all isAsciiDigit then
        some (Integer.signed negative (digitsValue digits))
      else none
    else none

/-- The fractional digits after the whole part of a numeral, and the rest after them. -/
def splitFraction : Text → Text × Text
  | '.' :: rest => (rest.takeWhile isAsciiDigit, rest.dropWhile isAsciiDigit)
  | rest => ([], rest)

/-- Reads an ASCII numeral: digits with an optional point, at least one digit beside it, and an
optional exponent. -/
def ofText? (text : Text) : Option Numeral :=
  let whole := text.takeWhile isAsciiDigit
  let (fraction, rest) := splitFraction (text.dropWhile isAsciiDigit)
  if whole = [] && fraction = [] then none
  else (exponent? rest).map fun exponent => ⟨whole, fraction, exponent⟩

/-- The integer that all digits of a numeral write. -/
def coefficient (numeral : Numeral) : Nat :=
  digitsValue (numeral.whole ++ numeral.fraction)

/-- The power of ten that the coefficient is multiplied by. -/
def scale (numeral : Numeral) : Int :=
  numeral.exponent - numeral.fraction.length

end Numeral

/-- The power of ten of the leading digit of a coefficient at a scale. -/
def leadingPower (coefficient : Nat) (scale : Int) : Int :=
  scale + (ofNat coefficient).length - 1

/-- The largest power of ten of a leading digit. -/
def maxLeadingPower : Int := 999999999999999999

/-- The least exponent of a number. -/
def minExponent : Int := -1999999999999999997

/-- The finite number with the given parts, if its exponents are in range. -/
def finite? (negative : Bool) (coefficient : Nat) (exponent : Int) : Option Decimal :=
  if leadingPower coefficient exponent ≤ maxLeadingPower ∧ minExponent ≤ exponent then
    some (.finite negative coefficient exponent)
  else none

/-- What follows `word` at the start of a text, letter case ignored. -/
def afterWord? : (word text : Text) → Option Text
  | [], text => some text
  | _ :: _, [] => none
  | w :: word, c :: text => if c.toAsciiLower = w then afterWord? word text else none

/-- Reads a not-a-number without its sign: `nan` or `snan` and diagnostic digits. -/
def nan? (negative : Bool) (text : Text) : Option Decimal :=
  match afterWord? ['n', 'a', 'n'] text, afterWord? ['s', 'n', 'a', 'n'] text with
  | some digits, _ => diagnosed false digits
  | none, some digits => diagnosed true digits
  | none, none => none
where
  /-- The not-a-number with the given diagnostic digits, if they are digits. -/
  diagnosed (signaling : Bool) (digits : Text) : Option Decimal :=
    if digits.all isAsciiDigit then some (.nan negative signaling (digitsValue digits)) else none

/-- Reads a number without its sign from ASCII text. -/
def unsigned? (negative : Bool) (text : Text) : Option Decimal :=
  if afterWord? ['i', 'n', 'f'] text = some [] ∨
      afterWord? ['i', 'n', 'f', 'i', 'n', 'i', 't', 'y'] text = some [] then
    some (.infinite negative)
  else
    match nan? negative text with
    | some undefined => some undefined
    | none =>
      (Numeral.ofText? text).bind fun numeral =>
        finite? negative numeral.coefficient numeral.scale

/-- The decimal number that a text writes. Surrounding blanks and all underscores are
skipped. -/
def ofText? (text : Text) : Option Decimal := do
  let ascii ← numeral? (trim text |>.filter (· ≠ '_'))
  let (negative, body) := Integer.splitSign ascii
  unsigned? negative body

/-- The sign of a number text. -/
def signText (negative : Bool) : Text :=
  if negative then ['-'] else []

/-- Digits with a point so many places from the right, padded with zeros on the left. -/
def positional (digits : Text) (places : Nat) : Text :=
  if places = 0 then digits
  else if places < digits.length then
    digits.take (digits.length - places) ++
      CodePoint.scalar '.' :: digits.drop (digits.length - places)
  else '0' :: '.' :: (List.replicate (places - digits.length) (.scalar '0') ++ digits)

/-- An exponent with its sign always written. -/
def exponentText (exponent : Int) : Text :=
  'E' :: (if exponent < 0 then '-' else '+') :: ofNat exponent.natAbs

/-- Digits with a point after the first, followed by the power of ten of that first digit. -/
def scientific (digits : Text) (power : Int) : Text :=
  match digits with
  | [] => exponentText power
  | [digit] => digit :: exponentText power
  | digit :: more => digit :: '.' :: (more ++ exponentText power)

/-- The text of a decimal number. -/
def toText : Decimal → Text
  | finite negative coefficient exponent =>
    let power := leadingPower coefficient exponent
    signText negative ++
      if exponent ≤ 0 ∧ -6 ≤ power then positional (ofNat coefficient) exponent.natAbs
      else scientific (ofNat coefficient) power
  | infinite negative => signText negative ++ "Infinity"
  | nan negative signaling diagnostic =>
    signText negative ++ (if signaling then "sNaN" else "NaN") ++
      if diagnostic = 0 then [] else ofNat diagnostic

end Decimal

end ListQuery
