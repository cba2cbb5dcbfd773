import ListQuery.AllowList
import ListQuery.Filter.Basic
import ListQuery.Filter.Tree.Parser

/-!
# Reading filters

A filter text is read in four stages, and an earlier stage's fault is reported first: tokens,
tree, columns against the allow-list, literals. The last stage refuses only double-quoted
strings, which the grammar admits and no literal is written with.
-/

namespace ListQuery.Filter

/-- The condition of a clause, whose literal token must be a single-quoted string or a
number. -/
def Condition.ofClause (clause : Clause) : Except Rejection Condition :=
  match Literal.ofToken? clause.literal with
  | some literal => .ok ⟨clause.column, clause.comparator, literal⟩
  | none =>
    .error (.expecting .badLiteral clause.literal "single-quoted string or number")

/-- The tree of a filter text. -/
def Tree.ofText (raw : Text) : Except Rejection Tree := do
  let tokens ← tokenize raw
  Tree.ofTokens raw tokens

/-- The filter that a tree describes, with its columns and literals checked. -/
def ofTree (allowed : AllowList) (tree : Tree) : Except Rejection Filter := do
  allowed.requireAll (tree.clauses.map (·.column))
  let conditions ← tree.clauses.mapM Condition.ofClause
  return ⟨conditions, tree.connectives, tree.spansFrom 0⟩

/-- The filter that a text writes. The empty text writes the filter without conditions. -/
def parse (allowed : AllowList) (raw : Text) : Except Rejection Filter := do
  allowed.requireNonempty
  if raw = [] then return empty
  ofTree allowed (← Tree.ofText raw)

end ListQuery.Filter
