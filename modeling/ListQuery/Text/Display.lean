import ListQuery.Text.PrintableTable
import ListQuery.Text.Case

/-!
# Displayed texts

A text as a diagnostic message shows it: between quotes, with characters that have no printed
shape escaped by their code point. Double quotes enclose a text that has single quotes and no
double quotes; single quotes enclose every other.
-/

namespace ListQuery.Text

/-- Whether a character has a printed shape. -/
def isPrintable (c : CodePoint) : Bool :=
  ! inRanges unprintableRanges c.toNat

/-- A lower-case hexadecimal numeral of at least `width` digits. -/
def hexadecimal (width value : Nat) : Text :=
  let digits : Text := (Nat.toDigits 16 value).map .scalar
  List.replicate (width - digits.length) (.scalar '0') ++ digits

/-- A character inside a displayed text enclosed in `delimiter`. -/
def displayChar (delimiter c : CodePoint) : Text :=
  if c = delimiter || c = '\\' then ['\\', c]
  else if c = '\n' then ['\\', 'n']
  else if c = '\r' then ['\\', 'r']
  else if c = '\t' then ['\\', 't']
  else if isPrintable c then [c]
  else if c.toNat < 0x100 then '\\' :: 'x' :: hexadecimal 2 c.toNat
  else if c.toNat < 0x10000 then '\\' :: 'u' :: hexadecimal 4 c.toNat
  else '\\' :: 'U' :: hexadecimal 8 c.toNat

/-- The quote that encloses a displayed text. -/
def displayDelimiter (text : Text) : CodePoint :=
  if text.contains '\x27' && ! text.contains '\x22' then '\x22' else '\x27'

/-- A text as a message shows it. -/
def display (text : Text) : Text :=
  let delimiter := displayDelimiter text
  delimiter :: (text.flatMap (displayChar delimiter) ++ [delimiter])

end ListQuery.Text
