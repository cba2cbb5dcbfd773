import ListQuery.Rejection

/-!
# Refusals

A list query has four parameters, and a refusal names the one that is at fault. The reason is
that of a rejected expression, or one of a limit or a length.
-/

namespace ListQuery

/-- The parameters of a list query. -/
inductive Parameter where
  | sort
  | filter
  | fields
  | limit
deriving Repr, DecidableEq

/-- The name of a parameter. -/
def Parameter.name : Parameter → Text
  | sort => "sort"
  | filter => "filter"
  | fields => "fields"
  | limit => "limit"

namespace Refusal

/-- Why a parameter is refused. -/
inductive Reason where
  | rejected (reason : ListQuery.Reason)
  | tooLong
  | notAnInteger
  | outOfRange
deriving Repr, DecidableEq

/-- The name under which a reason is reported. -/
def Reason.name : Reason → Text
  | rejected reason => reason.name
  | tooLong => "too_long"
  | notAnInteger => "not_an_integer"
  | outOfRange => "out_of_range"

end Refusal

/-- The refusal of one parameter. -/
structure Refusal where
  parameter : Text
  reason : Refusal.Reason
  token : Option Text
  expected : Option Text
deriving Repr, DecidableEq

namespace Refusal

/-- The refusal of a parameter for a rejected expression. -/
def ofRejection (parameter : Text) (rejection : Rejection) : Refusal :=
  ⟨parameter, .rejected rejection.reason, rejection.token, rejection.expected⟩

/-- The texts of a refusal that vary with the query and the resource. -/
def texts (refusal : Refusal) : List Text :=
  refusal.parameter :: (refusal.token.toList ++ refusal.expected.toList)

/-- The one-line message of a refusal. -/
def message (refusal : Refusal) : Text :=
  "invalid " ++ refusal.parameter ++ ": " ++ refusal.reason.name

end Refusal

end ListQuery
