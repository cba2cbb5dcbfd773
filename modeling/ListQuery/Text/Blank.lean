import ListQuery.Text.Basic

/-!
# Blanks

Two notions of white space meet in a list query. Configuration, projections and sort keys
are trimmed of every Unicode blank, the four separator controls U+001C to U+001F included.
The filter grammar and integer texts know only the six ASCII blanks.
-/

namespace ListQuery.Text

/-- The blanks of a Unicode text: characters with the property White_Space and the four
separator controls. Zero-width characters are not blanks. -/
def isBlank (c : CodePoint) : Bool :=
  let n := c.toNat
  (9 ≤ n && n ≤ 13) || (28 ≤ n && n ≤ 32) || n == 0x85 || n == 0xA0 || n == 0x1680 ||
    (0x2000 ≤ n && n ≤ 0x200A) || n == 0x2028 || n == 0x2029 || n == 0x202F || n == 0x205F ||
    n == 0x3000

/-- Space, tab, line feed, vertical tab, form feed and carriage return. -/
def isAsciiBlank (c : CodePoint) : Bool :=
  let n := c.toNat
  n == 32 || (9 ≤ n && n ≤ 13)

/-- An ASCII blank is a blank. -/
theorem isBlank_of_isAsciiBlank {c : CodePoint} (blank : isAsciiBlank c = true) :
    isBlank c = true := by
  simp only [isAsciiBlank, isBlank, Bool.or_eq_true, Bool.and_eq_true, beq_iff_eq,
    decide_eq_true_eq] at blank ⊢
  omega

/-- The text without the blanks at its ends. -/
def trim (text : Text) : Text :=
  dropTrailing isBlank (text.dropWhile isBlank)

/-- The first blank-free run of a text and what follows the blanks after it, trimmed. Either
is empty when the text has no such part. -/
def splitFirstWord (text : Text) : Text × Text :=
  let start := text.dropWhile isBlank
  (start.takeWhile (! isBlank ·), trim (start.dropWhile (! isBlank ·)))

end ListQuery.Text
