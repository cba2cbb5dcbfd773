import ListQuery.AllowList
import ListQuery.Text.Blank
import ListQuery.Text.Case

/-!
# Sort orders

A sort order is a comma-separated list of keys, such as `id ASC, created_at DESC`. Each key is
one allowed column and an explicit direction in any letter case. Columns are checked before
missing directions, and those before unknown directions; the leftmost fault is reported.
-/

namespace ListQuery.Sort

/-- The direction of a sort key. -/
inductive Direction where
  | ascending
  | descending
deriving Repr, DecidableEq

namespace Direction

/-- The keyword of a direction. -/
def keyword : Direction → Text
  | ascending => ['A', 'S', 'C']
  | descending => ['D', 'E', 'S', 'C']

/-- The direction whose keyword a text is, letter case ignored. -/
def ofKeyword? (text : Text) : Option Direction :=
  let word := Text.upper text
  if word = keyword ascending then some ascending
  else if word = keyword descending then some descending
  else none

/-- The two keywords, as a hint to the client. -/
def hint : Text := "ASC or DESC"

end Direction

/-- A column with the direction to sort it in. -/
structure Key where
  column : Text
  direction : Direction
deriving Repr, DecidableEq

/-- The text of a sort key: column, space, keyword. -/
def Key.text (key : Key) : Text :=
  key.column ++ CodePoint.scalar ' ' :: key.direction.keyword

/-- One part of a sort order: its source text, its first word, and the text that follows. -/
structure Part where
  source : Text
  column : Text
  direction : Option Text
deriving Repr, DecidableEq

namespace Part

/-- The first word of a source text is the column; a nonempty remainder is the direction. -/
def ofText (source : Text) : Part :=
  let (column, remainder) := Text.splitFirstWord source
  ⟨source, column, if remainder = [] then none else some remainder⟩

/-- A column and the direction text that a part must have. -/
def directed (part : Part) : Except Rejection (Text × Text) :=
  match part.direction with
  | some direction => .ok (part.column, direction)
  | none =>
    .error (.expecting .cardinalityMismatch (Text.trim part.source) Direction.hint)

end Part

/-- The sort key of a column and a direction text, which must be a keyword. -/
def Key.ofTexts (column direction : Text) : Except Rejection Key :=
  match Direction.ofKeyword? direction with
  | some keyword => .ok ⟨column, keyword⟩
  | none => .error (.expecting .unknownDirection direction Direction.hint)

/-- The comma-separated parts of a sort order. -/
def parts (raw : Text) : List Part :=
  (Text.pieces ',' raw).map Part.ofText

/-- The keys of a sort order, one for each part. -/
def parse (allowed : AllowList) (raw : Text) : Except Rejection (List Key) := do
  allowed.requireNonempty
  if raw = [] then return []
  allowed.requireAll ((parts raw).map Part.column)
  let directed ← (parts raw).mapM Part.directed
  directed.mapM fun (column, direction) => Key.ofTexts column direction

end ListQuery.Sort
