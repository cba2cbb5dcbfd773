import ListQuery.Text.Digit

/-!
# Integer texts

The permissive way to write an integer, which configuration values and literal values use:
surrounding ASCII blanks, a sign, decimal digits of any script, and single underscores between
digits. The number of digits is limited, leading zeros counted.
-/

namespace ListQuery.Integer

open Text

/-- The most digits an integer text may have. -/
def maxDigits : Nat := 4300

/-- The sign in front of a text, `true` for minus, and what follows it. -/
def splitSign : Text → Bool × Text
  | '-' :: rest => (true, rest)
  | '+' :: rest => (false, rest)
  | text => (false, text)

/-- The digits of a nonempty run of ASCII digits in which a single underscore may stand
between two digits. -/
def digits? : Text → Option Text
  | [] => none
  | [c] => if isAsciiDigit c then some [c] else none
  | c :: d :: rest =>
    if isAsciiDigit c then
      (if d = '_' then digits? rest else digits? (d :: rest)).map (c :: ·)
    else none

/-- The integer with a given sign and magnitude. -/
def signed (negative : Bool) (magnitude : Nat) : Int :=
  if negative then -magnitude else magnitude

/-- The integer that a text writes. -/
def ofText? (text : Text) : Option Int := do
  let ascii ← numeral? text
  let (negative, body) := splitSign (dropTrailing isAsciiBlank (ascii.dropWhile isAsciiBlank))
  let digits ← digits? body
  if digits.length ≤ maxDigits then some (signed negative (digitsValue digits)) else none

end ListQuery.Integer
