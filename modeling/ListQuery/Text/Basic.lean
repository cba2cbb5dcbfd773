import ListQuery.Text.CodePoint

/-!
# Texts

A text is a sequence of Unicode code points. Lengths and positions count its members, so
nothing in the library depends on how a text is stored or transmitted. The module holds the
operations that do not look at character classes: cutting at a separator, joining, and the
order by code point.
-/

namespace ListQuery

/-- A sequence of Unicode code points. -/
abbrev Text := List CodePoint

namespace Text

/-- The text that a string holds. -/
def of (s : String) : Text :=
  s.toList.map .scalar

instance : Coe String Text where
  coe := of

/-- Whether a text has an encoded form: it is made of characters only. -/
def isEncodable (text : Text) : Bool :=
  text.all CodePoint.isScalar

/-- The parts of a text between the occurrences of `separator`. There is always one part more
than there are separators, so the empty text has one empty part. -/
def pieces (separator : CodePoint) : Text → List Text
  | [] => [[]]
  | c :: rest =>
    if c = separator then [] :: pieces separator rest
    else (pieces separator rest).modifyHead (c :: ·)

/-- The parts in order with `separator` between neighbours. -/
def join (separator : Text) (parts : List Text) : Text :=
  separator.intercalate parts

/-- Every text has a part. -/
theorem pieces_ne_nil (separator : CodePoint) (text : Text) : pieces separator text ≠ [] := by
  induction text with
  | nil => simp [pieces]
  | cons c rest ih =>
    unfold pieces
    split
    · simp
    · cases parts : pieces separator rest with
      | nil => exact absurd parts ih
      | cons head tail => simp

/-- The text without the longest run of characters at its end that `drops` holds of. -/
def dropTrailing (drops : CodePoint → Bool) (text : Text) : Text :=
  (text.reverse.dropWhile drops).reverse

/-- Dropping characters from the front of a text never makes it longer. -/
theorem length_dropWhile_le (drops : CodePoint → Bool) (text : Text) :
    (text.dropWhile drops).length ≤ text.length :=
  (List.dropWhile_suffix drops).length_le

/-- Whether `left` comes no later than `right` when texts are ordered by their code points,
with a text before its own continuations. -/
def comesBefore : (left right : Text) → Bool
  | [], _ => true
  | _ :: _, [] => false
  | a :: left, b :: right => a.toNat < b.toNat || (a == b && comesBefore left right)

/-- The distinct members of a list of texts in code point order. -/
def sortedDistinct (texts : List Text) : List Text :=
  texts.eraseDups.mergeSort comesBefore

end Text

end ListQuery
