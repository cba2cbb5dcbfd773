import ListQuery.Text.DigitTable
import ListQuery.Text.Blank

/-!
# Digits

Number texts may be written with the decimal digits of any script. A text is read by first
replacing each such digit by the ASCII digit of the same value.
-/

namespace ListQuery.Text

/-- The ASCII digits. -/
def isAsciiDigit (c : CodePoint) : Bool :=
  48 ≤ c.toNat && c.toNat ≤ 57

/-- The ASCII letters. -/
def isAsciiLetter (c : CodePoint) : Bool :=
  (65 ≤ c.toNat && c.toNat ≤ 90) || (97 ≤ c.toNat && c.toNat ≤ 122)

/-- The ASCII letters and digits and the underscore. -/
def isWordChar (c : CodePoint) : Bool :=
  isAsciiLetter c || isAsciiDigit c || c == '_'

/-- The value of a decimal digit of any script. -/
def digitValue? (c : CodePoint) : Option Nat :=
  (digitZeros.find? fun start => start ≤ c.toNat && c.toNat ≤ start + 9).map (c.toNat - ·)

/-- The ASCII digit of a value below ten. -/
def asciiDigit (value : Nat) : CodePoint :=
  .ofNat (48 + value)

/-- The value of a run of ASCII digits, most significant first. -/
def digitsValue (digits : Text) : Nat :=
  digits.foldl (fun value c => 10 * value + (c.toNat - 48)) 0

/-- The shortest run of ASCII digits with a given value. -/
def ofNat (value : Nat) : Text :=
  (Nat.toDigits 10 value).map .scalar

/-- The shortest decimal text of an integer; only a negative one has a sign. -/
def ofInt (value : Int) : Text :=
  if value < 0 then '-' :: ofNat value.natAbs else ofNat value.natAbs

/-- The ASCII form of a character of a number text: ASCII stays, a blank becomes a space, a
decimal digit its ASCII digit. Other characters have none. -/
def numeralChar? (c : CodePoint) : Option CodePoint :=
  if c.toNat < 128 then some c
  else if isBlank c then some (.scalar ' ')
  else (digitValue? c).map asciiDigit

/-- A number text in ASCII, unless it holds a character that no number can have. -/
def numeral? (text : Text) : Option Text :=
  text.mapM numeralChar?

end ListQuery.Text
