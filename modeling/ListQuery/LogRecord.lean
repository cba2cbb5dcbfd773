import ListQuery.Refusal

/-!
# Log records

The records that a check, a query or a request leaves behind. A record says what happened and
carries the data that a reader filters by; how records are formatted is not decided here.
-/

namespace ListQuery

/-- A log record. -/
inductive LogRecord where
  | expressionRejected (kind : Parameter) (rejection : Rejection)
  | parameterRejected (resource : Text) (parameter : Parameter) (rejection : Rejection)
  | queryInvalid (requestId resource : Text) (refusal : Refusal)
  | queryAccepted (requestId resource : Text) (fields sortKeys conditions : Nat) (limit : Int)
deriving Repr, DecidableEq

namespace LogRecord

/-- The name of what a record reports. -/
def event : LogRecord → Text
  | expressionRejected .. => "query_expression_rejected"
  | parameterRejected .. => "list_query_rejected"
  | queryInvalid .. => "list_query_invalid"
  | queryAccepted .. => "list_query_accepted"

end LogRecord

end ListQuery
