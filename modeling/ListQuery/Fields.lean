import ListQuery.AllowList
import ListQuery.Text.Blank

/-!
# Projections

A projection is a comma-separated list of columns, such as `id, first_name, email`. Each part
is trimmed and must be an allowed column. The empty text asks for no restriction.
-/

namespace ListQuery.Fields

/-- The trimmed parts of a projection. An empty part stays, so that the allow-list refuses
it. -/
def tokens (raw : Text) : List Text :=
  (Text.pieces ',' raw).map Text.trim

/-- The columns that a projection selects, without a gate. -/
def columns (raw : Text) : List Text :=
  if raw = [] then [] else tokens raw

/-- The columns of a projection all of whose parts are allowed. -/
def parse (allowed : AllowList) (raw : Text) : Except Rejection (List Text) := do
  allowed.requireNonempty
  if raw = [] then return []
  allowed.requireAll (tokens raw)
  return tokens raw

end ListQuery.Fields
