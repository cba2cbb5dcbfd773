import ListQuery.Framework
import ListQuery.Json.Basic
import ListQuery.Query
import ListQuery.Resource

/-!
# Requests and responses

What a client sends and what the service answers, before any encoding. A body is a value of a
type of its own, so that the answer to a query can be compared with the selection behind it.
-/

namespace ListQuery.Service

/-- A request. `fresh` is the identifier to use if the client sent none. -/
structure Request where
  method : Text
  path : Text
  parameters : List (Text × Text)
  identifier : Option Text
  fresh : Text
deriving Repr, DecidableEq

namespace Request

/-- The value of a parameter; of several the last one counts. -/
def parameter? (request : Request) (name : Text) : Option Text :=
  Framework.lastValue? request.parameters name

/-- The list query that the parameters of a request make up. -/
def query (request : Request) : Query where
  fields := (request.parameter? Parameter.fields.name).getD []
  sort := (request.parameter? Parameter.sort.name).getD []
  filter := (request.parameter? Parameter.filter.name).getD []
  limit := request.parameter? Parameter.limit.name

/-- The identifier under which a request is answered and logged. -/
def id (request : Request) : Text :=
  (request.identifier.filter (· ≠ [])).getD request.fresh

/-- Whether a request uses the one method that the endpoints of the service itself answer. -/
def isGet (request : Request) : Bool :=
  request.method = "GET"

end Request

/-- The value of a literal in an answer. A number that is no integer is sent as text. -/
inductive AnswerValue where
  | text (value : Text)
  | integer (value : Int)
deriving Repr, DecidableEq

/-- The value of a literal, if a number literal can be read. -/
def AnswerValue.ofLiteral? : Filter.Literal → Option AnswerValue
  | .string _ value => some (.text value)
  | .number raw => (Number.ofText? raw).map fun
    | .integer value => .integer value
    | .decimal value => .text value.toText

/-- A condition in an answer. -/
structure ConditionAnswer where
  column : Text
  comparator : Filter.Comparator
  literal : Text
  isNumber : Bool
  value : AnswerValue
deriving Repr, DecidableEq

/-- The texts in a condition of an answer. -/
def ConditionAnswer.texts (condition : ConditionAnswer) : List Text :=
  [condition.column, condition.literal] ++
    match condition.value with
    | .text value => [value]
    | .integer _ => []

/-- The answer's form of a condition. -/
def ConditionAnswer.ofCondition? (condition : Filter.Condition) : Option ConditionAnswer :=
  (AnswerValue.ofLiteral? condition.literal).map fun value =>
    ⟨condition.column, condition.comparator, condition.literal.raw,
      match condition.literal with
      | .string .. => false
      | .number _ => true,
      value⟩

/-- The answer to an accepted list query. -/
structure QueryAnswer where
  resource : Text
  fields : List Text
  sort : List Sort.Key
  conditions : List ConditionAnswer
  connectives : List Filter.Connective
  groups : List Filter.Span
  limit : Int
  requestId : Text
deriving Repr, DecidableEq

/-- The answer that reports a selection from a resource. -/
def QueryAnswer.ofSelection? (resource : Text) (selection : Selection) (requestId : Text) :
    Option QueryAnswer :=
  (selection.filter.conditions.mapM ConditionAnswer.ofCondition?).map fun conditions =>
    ⟨resource, selection.fields, selection.sort, conditions, selection.filter.connectives,
      selection.filter.groups, selection.limit, requestId⟩

/-- The texts in the answer to a query. -/
def QueryAnswer.texts (answer : QueryAnswer) : List Text :=
  answer.resource :: answer.fields ++ answer.sort.map (·.column) ++
    answer.conditions.flatMap ConditionAnswer.texts ++ [answer.requestId]

/-- The body of a response. -/
inductive Body where
  | empty
  | failure
  | detail (text : Text)
  | refusal (refusal : Refusal)
  | healthy
  | resources (resources : List Resource)
  | query (answer : QueryAnswer)
  | metrics (lines : List Text)
deriving Repr, DecidableEq

/-- Why a request could not be answered: the configuration cannot be read, a number literal has no
value, or a detail or a description holds a text that has no encoded form. -/
inductive Failure where
  | configuration (fault : Json.Fault)
  | unreadableNumber
  | unencodableDetail
  | unencodableDescription
deriving Repr, DecidableEq

namespace Body

/-- The texts in a body that come from a client or from configuration. -/
def texts : Body → List Text
  | empty | failure | healthy => []
  | detail text => [text]
  | refusal cause => cause.texts
  | resources described => described.flatMap Resource.texts
  | query answer => answer.texts
  | metrics lines => lines

/-- What keeps a body from being sent: a text in it that has no encoded form. Starlette encodes the
detail of a refusal, and pydantic the description of a resource or of a selection. -/
def failure? (body : Body) : Option Failure :=
  if body.texts.all Text.isEncodable then none
  else
    match body with
    | resources _ | query _ => some .unencodableDescription
    | _ => some .unencodableDetail

end Body

/-- A response. `failure` is what stopped the service, in which case the body says no more than
that. A response with a page of the framework has that page in the place of its body. -/
structure Response where
  status : Nat
  body : Body
  requestId : Option Text
  location : Option Text
  allow : Option Text
  failure : Option Failure
  records : List LogRecord
  page : Option Framework.Page
deriving Repr, DecidableEq

namespace Response

/-- A response with a status and a body to the request with an identifier. -/
def plain (status : Nat) (body : Body) (requestId : Text) : Response :=
  ⟨status, body, some requestId, none, none, none, [], none⟩

/-- The response to a request that the service failed on, which Starlette gives in its place. -/
def failed (failure : Failure) (records : List LogRecord) : Response :=
  ⟨500, .failure, none, none, none, some failure, records, none⟩

/-- The response that is sent in the place of one whose body may have no encoded form. The records
are those of the answer that was meant. -/
def sent (response : Response) : Response :=
  match response.body.failure? with
  | none => response
  | some failure => .failed failure response.records

end Response

end ListQuery.Service
