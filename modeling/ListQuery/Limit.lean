import ListQuery.Number.Integer
import ListQuery.Refusal
import ListQuery.Settings

/-!
# Limits

The limit of a query is an optional ASCII sign and one to nineteen ASCII digits, within the
configured bounds. A query without a limit, or with an empty one, gets the standard limit, which
is taken as it is configured.
-/

namespace ListQuery.Limit

open Text

/-- The most digits of a limit. -/
def maxDigits : Nat := 19

/-- The integer that a limit text writes, if it has the form of one. -/
def ofText? (raw : Text) : Option Int :=
  let (negative, digits) := Integer.splitSign raw
  if digits ≠ [] && digits.all isAsciiDigit && digits.length ≤ maxDigits then
    some (Integer.signed negative (digitsValue digits))
  else none

/-- What a limit has to be, as a hint to the client. -/
def hint (bounds : LimitBounds) : Text :=
  "integer between " ++ ofInt bounds.least ++ " and " ++ ofInt bounds.most

/-- The refusal of a limit text. -/
def refusal (bounds : LimitBounds) (reason : Refusal.Reason) (raw : Text) : Refusal :=
  ⟨Parameter.limit.name, reason, some raw, some (hint bounds)⟩

/-- The limit of a query. -/
def parse (bounds : LimitBounds) : Option Text → Except Refusal Int
  | none => .ok bounds.standard
  | some raw =>
    if raw = [] then .ok bounds.standard
    else
      match ofText? raw with
      | none => .error (refusal bounds .notAnInteger raw)
      | some limit =>
        if bounds.least ≤ limit ∧ limit ≤ bounds.most then .ok limit
        else .error (refusal bounds .outOfRange raw)

end ListQuery.Limit
