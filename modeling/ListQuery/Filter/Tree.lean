import ListQuery.Filter.Token

/-!
# Filter trees

The shape of a filter expression: operands joined by connectives, where an operand is a
condition or a group. Both connectives bind alike, so a tree is a chain of operands from left
to right. The module also lists what a tree holds: its conditions, its connectives and the
spans of its groups.
-/

namespace ListQuery.Filter

/-- A condition whose literal is still a token text. -/
structure Clause where
  column : Text
  comparator : Comparator
  literal : Text
deriving Repr, DecidableEq

/-- The first and the last condition of a group, counted from zero. -/
structure Span where
  first : Int
  last : Int
deriving Repr, DecidableEq

/-- Operands joined by connectives. Each constructor holds the first operand, which is a clause
or a group, and either nothing or the first connective and the operands after it. -/
inductive Tree where
  | clause (clause : Clause)
  | group (inner : Tree)
  | clauseThen (clause : Clause) (connective : Connective) (rest : Tree)
  | groupThen (inner : Tree) (connective : Connective) (rest : Tree)
deriving Repr, DecidableEq

namespace Tree

/-- The clauses of a tree from left to right. -/
def clauses : Tree → List Clause
  | clause c => [c]
  | group inner => inner.clauses
  | clauseThen c _ rest => c :: rest.clauses
  | groupThen inner _ rest => inner.clauses ++ rest.clauses

/-- The connectives of a tree from left to right. -/
def connectives : Tree → List Connective
  | clause _ => []
  | group inner => inner.connectives
  | clauseThen _ connective rest => connective :: rest.connectives
  | groupThen inner connective rest => inner.connectives ++ connective :: rest.connectives

/-- The span of a group around `inner` whose first clause has the given index. -/
def spanAt (first : Nat) (inner : Tree) : Span :=
  ⟨first, first + inner.clauses.length - 1⟩

/-- The spans of the groups of a tree whose first clause has index `first`, in the order in
which the groups close. -/
def spansFrom (first : Nat) : Tree → List Span
  | clause _ => []
  | group inner => inner.spansFrom first ++ [spanAt first inner]
  | clauseThen _ _ rest => rest.spansFrom (first + 1)
  | groupThen inner _ rest =>
    inner.spansFrom first ++ spanAt first inner :: rest.spansFrom (first + inner.clauses.length)

/-- The number of groups around the most deeply nested clause. -/
def depth : Tree → Nat
  | clause _ => 0
  | group inner => inner.depth + 1
  | clauseThen _ _ rest => rest.depth
  | groupThen inner _ rest => max (inner.depth + 1) rest.depth

end Tree

end ListQuery.Filter
