import ListQuery.Dictionary

/-!
# JSON values

The part of a JSON value that configuration looks at: texts, arrays and objects. Numbers,
truth values and null are all the same scalar, since no setting reads them.
-/

namespace ListQuery.Json

/-- A JSON value. The members of an object stand in reading order, repeated keys included. -/
inductive Value where
  | text (text : Text)
  | array (elements : List Value)
  | object (members : List (Text × Value))
  | scalar
deriving Repr

namespace Value

/-- The texts of an array that holds nothing else. -/
def texts? : Value → Option (List Text)
  | array elements => elements.mapM fun
    | text t => some t
    | _ => none
  | _ => none

end Value

/-- Why a text cannot be read as JSON. A number or a nesting beyond the limits is told apart
from text that is not JSON at all. -/
inductive Fault where
  | notJson
  | numberTooLong
  | nestingTooDeep
deriving Repr, DecidableEq

end ListQuery.Json
