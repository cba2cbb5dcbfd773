import ListQuery.Number.Value
import ListQuery.Text.Quoted

/-!
# Filter literals

A literal is a single-quoted string or a number. It keeps its source text, so that an expression
can be written back as it came.
-/

namespace ListQuery.Filter

/-- The right-hand side of a condition. `raw` is the source text; a string also has the text
that it quotes. -/
inductive Literal where
  | string (raw value : Text)
  | number (raw : Text)
deriving Repr, DecidableEq

namespace Literal

/-- The source text of a literal. -/
def raw : Literal → Text
  | string raw _ => raw
  | number raw => raw

/-- The literal that a token writes. A double-quoted token writes none. -/
def ofToken? (token : Text) : Option Literal :=
  match Text.Quoted.decode token with
  | some value => some (.string token value)
  | none => if Number.isNumber token then some (.number token) else none

end Literal

end ListQuery.Filter
