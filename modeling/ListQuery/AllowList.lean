import ListQuery.Rejection

/-!
# Allow-lists

An allow-list holds the columns that a client may name. It gates expressions and has no other
influence: membership is exact, and neither order nor repetition matters. A list without
columns is a configuration fault that refuses every expression.
-/

namespace ListQuery

/-- The columns that an expression may name. -/
abbrev AllowList := List Text

namespace AllowList

/-- Accepts a list that has a column. -/
def requireNonempty (allowed : AllowList) : Except Rejection Unit :=
  if allowed = [] then .error ⟨.emptyAllowList, none, none⟩ else .ok ()

/-- The rejection of a column that is not in the list. -/
def unknownColumn (allowed : AllowList) (column : Text) : Rejection :=
  .expecting .unknownColumn column ("one of " ++ Text.join ", " allowed)

/-- Accepts a column of the list. -/
def require (allowed : AllowList) (column : Text) : Except Rejection Unit :=
  if column ∈ allowed then .ok () else .error (allowed.unknownColumn column)

/-- Accepts columns that are all in the list; the leftmost other one is to blame. -/
def requireAll (allowed : AllowList) : (columns : List Text) → Except Rejection Unit
  | [] => .ok ()
  | column :: rest => do
    allowed.require column
    allowed.requireAll rest

end AllowList

end ListQuery
