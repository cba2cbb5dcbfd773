import ListQuery.Text.Display

/-!
# Rejections

A rejection says why an expression is refused, which token is to blame and what would have
been accepted in its place. The reason is a closed vocabulary; the other two are texts for a
reader.
-/

namespace ListQuery

/-- Why a fields, sort or filter expression is refused. -/
inductive Reason where
  | emptyAllowList
  | unknownColumn
  | unknownDirection
  | badComparator
  | badLiteral
  | cardinalityMismatch
  | malformed
deriving Repr, DecidableEq

namespace Reason

/-- All reasons. -/
def all : List Reason :=
  [emptyAllowList, unknownColumn, unknownDirection, badComparator, badLiteral,
    cardinalityMismatch, malformed]

/-- The name under which a reason is reported. -/
def name : Reason → Text
  | emptyAllowList => "empty_allow_list"
  | unknownColumn => "unknown_column"
  | unknownDirection => "unknown_direction"
  | badComparator => "bad_comparator"
  | badLiteral => "bad_literal"
  | cardinalityMismatch => "cardinality_mismatch"
  | malformed => "malformed"

/-- The reason with a given name. -/
def ofName? (text : Text) : Option Reason :=
  all.find? (·.name = text)

end Reason

/-- The refusal of an expression. -/
structure Rejection where
  reason : Reason
  token : Option Text
  expected : Option Text
deriving Repr, DecidableEq

namespace Rejection

/-- A rejection that names the token to blame and what was expected. -/
def expecting (reason : Reason) (token : Text) (expected : Text) : Rejection :=
  ⟨reason, some token, some expected⟩

/-- The one-line message of a rejection: the reason, then the token as displayed, then a
nonempty expectation in parentheses. -/
def message (rejection : Rejection) : Text :=
  let blamed := match rejection.token with
    | some token => ": " ++ Text.display token
    | none => []
  let hint := match rejection.expected with
    | some expected =>
      if expected = [] then [] else " (expected " ++ expected ++ ")"
    | none => []
  rejection.reason.name ++ blamed ++ hint

end Rejection

end ListQuery
