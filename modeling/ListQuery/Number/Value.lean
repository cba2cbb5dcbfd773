import ListQuery.Number.Decimal

/-!
# Number literals

Which tokens are number literals, and which number a token denotes. A token is a number if it
is an integer text, or a decimal numeral that is not beyond the range of binary
floating point with 64 bits. The denoted number is never rounded: it is an integer or a decimal.
-/

namespace ListQuery

/-- The number that a literal denotes. -/
inductive Number where
  | integer (value : Int)
  | decimal (value : Decimal)
deriving Repr, DecidableEq

namespace Number

open Text

/-- The least magnitude that rounds to infinity in binary floating point with 64 bits. -/
def overflowThreshold : Nat := Nat.pow 2 1024 - Nat.pow 2 970

/-- Whether a coefficient times a power of ten is less than the overflow threshold. The size of
the leading digit decides unless it is that of the threshold. -/
def isInRange (coefficient : Nat) (scale : Int) : Bool :=
  let power := Decimal.leadingPower coefficient scale
  if coefficient = 0 || power < 308 then true
  else if 308 < power then false
  else if 0 ≤ scale then coefficient * Nat.pow 10 scale.natAbs < overflowThreshold
  else coefficient < overflowThreshold * Nat.pow 10 scale.natAbs

/-- Whether a text is a decimal numeral, optionally signed, whose value is in range. -/
def isFiniteDecimal (text : Text) : Bool :=
  match numeral? text with
  | some ascii =>
    match Decimal.Numeral.ofText? (Integer.splitSign ascii).2 with
    | some numeral => isInRange numeral.coefficient numeral.scale
    | none => false
  | none => false

/-- Whether a token is a number literal. -/
def isNumber (token : Text) : Bool :=
  token ≠ [] && trim token = token && ! token.contains '_' &&
    ((Integer.ofText? token).isSome || isFiniteDecimal token)

/-- The number that a text denotes: an integer if it is an integer text, else a decimal. -/
def ofText? (text : Text) : Option Number :=
  match Integer.ofText? text with
  | some value => some (.integer value)
  | none => (Decimal.ofText? text).map .decimal

end Number

end ListQuery
