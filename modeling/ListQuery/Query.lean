import ListQuery.Fields
import ListQuery.Filter.Parser
import ListQuery.Ledger
import ListQuery.Limit
import ListQuery.LogRecord
import ListQuery.Sort

/-!
# List queries

A list query is examined parameter by parameter: sort, filter, fields, limit. The first
parameter at fault decides the refusal, and nothing behind it is looked at. An examination also
tells what to count and what to log.
-/

namespace ListQuery

/-- The parameters of a list query as they came. -/
structure Query where
  fields : Text
  sort : Text
  filter : Text
  limit : Option Text
deriving Repr, DecidableEq

/-- The parameters of a list query as they were understood. -/
structure Selection where
  fields : List Text
  sort : List Sort.Key
  filter : Filter
  limit : Int
deriving Repr, DecidableEq

/-- The result of an examination with the events and records that it gives rise to. -/
structure Examination (α : Type) where
  result : Except Refusal α
  events : List Event
  records : List LogRecord

namespace Examination

/-- The examination of `next` if this one succeeded, after what this one gave rise to. -/
def andThen {α β : Type} (examination : Examination α) (next : α → Examination β) :
    Examination β :=
  match examination.result with
  | .error refusal => ⟨.error refusal, examination.events, examination.records⟩
  | .ok value =>
    let following := next value
    ⟨following.result, examination.events ++ following.events,
      examination.records ++ following.records⟩

/-- The examination of a parameter that came out as `result`. It is counted if metrics are
enabled. -/
def counted {α : Type} (config : Config) (parameter : Parameter) (result : Except Refusal α)
    (records : List LogRecord) : Examination α where
  result := result
  events :=
    if config.metricsEnabled then
      match result with
      | .ok _ => [.validation parameter none]
      | .error refusal => [.validation parameter (some refusal.reason)]
    else []
  records := records

end Examination

namespace Query

/-- The refusal of an expression that is longer than allowed. -/
def tooLong (config : Config) (parameter : Parameter) : Refusal :=
  ⟨parameter.name, .tooLong, none,
    some ("at most " ++ Text.ofInt config.maxExpressionLength ++ " characters")⟩

/-- The examination of one expression: its length, then its reading. -/
def examineExpression {α : Type} (config : Config) (resource : Text) (parameter : Parameter)
    (raw : Text) (parsed : Except Rejection α) : Examination α :=
  if config.maxExpressionLength < raw.length then
    .counted config parameter (.error (tooLong config parameter)) []
  else
    match parsed with
    | .ok value => .counted config parameter (.ok value) []
    | .error rejection =>
      .counted config parameter (.error (.ofRejection parameter.name rejection))
        [.parameterRejected resource parameter rejection]

/-- The examination of a limit. -/
def examineLimit (config : Config) (raw : Option Text) : Examination Int :=
  .counted config .limit (Limit.parse config.limits raw) []

/-- The examination of a query on a resource. -/
def examine (config : Config) (resource : Resource) (query : Query) : Examination Selection :=
  (examineExpression config resource.name .sort query.sort
    (Sort.parse resource.sort query.sort)).andThen fun sort =>
  (examineExpression config resource.name .filter query.filter
    (Filter.parse resource.filter query.filter)).andThen fun filter =>
  (examineExpression config resource.name .fields query.fields
    (Fields.parse resource.fields query.fields)).andThen fun fields =>
  (examineLimit config query.limit).andThen fun limit =>
  ⟨.ok ⟨fields, sort, filter, limit⟩, [], []⟩

end Query

end ListQuery
