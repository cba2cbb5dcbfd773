import ListQuery.Text.Digit

/-!
# Percent encoding

Texts as they stand in a URL: the bytes of their UTF-8 form, with `%` and two hexadecimal digits
in the place of every byte that may not stand for itself.
-/

namespace ListQuery.Text

/-- A byte as a percent sign and two upper-case hexadecimal digits. -/
def percentByte (byte : UInt8) : Text :=
  let digit (n : Nat) : CodePoint := if n < 10 then .ofNat (48 + n) else .ofNat (55 + n)
  ['%', digit (byte.toNat / 16), digit (byte.toNat % 16)]

/-- Whether a character stands for itself everywhere in a URL. -/
def isUnreserved (c : CodePoint) : Bool :=
  isWordChar c || c == '.' || c == '-' || c == '~'

/-- A text with every character encoded that is neither unreserved nor in `kept`. -/
def percentEncode (kept : Text) (text : Text) : Text :=
  text.flatMap fun c =>
    if isUnreserved c || kept.contains c then [c] else c.utf8.flatMap percentByte

/-- The query part of a URL for some names and values. A space is written as a plus sign. -/
def queryString (pairs : List (Text × Text)) : Text :=
  Text.join "&" (pairs.map fun (name, value) => component name ++ "=" ++ component value)
where
  /-- A name or a value. -/
  component (text : Text) : Text :=
    (percentEncode " " text).map fun (c : CodePoint) => if c = ' ' then '+' else c

end ListQuery.Text
