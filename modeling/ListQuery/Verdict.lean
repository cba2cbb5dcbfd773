import ListQuery.Fields
import ListQuery.Filter.Parser
import ListQuery.LogRecord
import ListQuery.Sort

/-!
# Verdicts

A verdict says whether an expression is acceptable without handing out what it means. A check
of an expression always ends in a verdict, and leaves a log record if the expression is
rejected.
-/

namespace ListQuery

/-- The outcome of a check: the rejection, if there is one. -/
structure Verdict where
  rejection : Option Rejection
deriving Repr, DecidableEq

namespace Verdict

/-- The verdict on an expression that was read, or not. -/
def ofResult {α : Type} : Except Rejection α → Verdict
  | .ok _ => ⟨none⟩
  | .error rejection => ⟨some rejection⟩

/-- Whether the expression is acceptable. -/
def isValid (verdict : Verdict) : Bool :=
  verdict.rejection.isNone

/-- The records that a check of an expression leaves. -/
def records (kind : Parameter) (verdict : Verdict) : List LogRecord :=
  verdict.rejection.toList.map (LogRecord.expressionRejected kind)

end Verdict

/-- The verdict on a projection. -/
def Fields.check (allowed : AllowList) (raw : Text) : Verdict :=
  .ofResult (Fields.parse allowed raw)

/-- The verdict on a sort order. -/
def Sort.check (allowed : AllowList) (raw : Text) : Verdict :=
  .ofResult (Sort.parse allowed raw)

/-- The verdict on a filter. -/
def Filter.check (allowed : AllowList) (raw : Text) : Verdict :=
  .ofResult (Filter.parse allowed raw)

end ListQuery
