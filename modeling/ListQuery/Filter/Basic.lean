import ListQuery.Filter.Literal
import ListQuery.Filter.Tree

/-!
# Filters

A filter is a flat reading of a filter expression: its conditions in source order, the
connectives between them, and one span of conditions for each group. The type also holds
lists that fit no expression; writing such a filter can fail for want of a connective.
-/

namespace ListQuery

namespace Filter

/-- A comparison of a column with a literal. -/
structure Condition where
  column : Text
  comparator : Comparator
  literal : Literal
deriving Repr, DecidableEq

/-- The text of a condition. -/
def Condition.text (condition : Condition) : Text :=
  condition.column ++ condition.comparator.symbol ++ condition.literal.raw

end Filter

/-- Conditions in source order, the connectives between them, and the spans of the groups in
the order in which the groups close. -/
structure Filter where
  conditions : List Filter.Condition
  connectives : List Filter.Connective
  groups : List Filter.Span
deriving Repr, DecidableEq

namespace Filter

/-- The filter without conditions. -/
def empty : Filter := ⟨[], [], []⟩

/-- Whether there is exactly one connective between any two neighbouring conditions. -/
def isConsistent (filter : Filter) : Bool :=
  filter.connectives.length = filter.conditions.length - 1

/-- The columns of the conditions. -/
def columns (filter : Filter) : List Text :=
  filter.conditions.map (·.column)

/-- The text of the condition with index `index`, with a parenthesis for every group that
starts or ends there. -/
def operandText (groups : List Span) (index : Nat) (condition : Condition) : Text :=
  List.replicate (groups.countP (·.first = (index : Int))) (.scalar '(') ++ condition.text ++
    List.replicate (groups.countP (·.last = (index : Int))) (.scalar ')')

/-- The text of the conditions from index `index` on, each preceded by its connective. -/
def continuation? (groups : List Span) (index : Nat) :
    List Condition → List Connective → Option Text
  | [], _ => some []
  | _ :: _, [] => none
  | condition :: conditions, connective :: connectives =>
    (continuation? groups (index + 1) conditions connectives).map fun rest =>
      ' ' :: (connective.keyword ++
        CodePoint.scalar ' ' :: (operandText groups index condition ++ rest))

/-- The text of a filter. There is none if a connective is missing. -/
def text? (filter : Filter) : Option Text :=
  match filter.conditions with
  | [] => some []
  | condition :: conditions =>
    (continuation? filter.groups 1 conditions filter.connectives).map
      (operandText filter.groups 0 condition ++ ·)

end Filter

end ListQuery
