import ListQuery.Service.Endpoint
import ListQuery.Service.Process

/-!
# Sessions

A session is the state of a running service: what its process fixed when it started, its
environment, the registry it has built, and the ledger of counted events. The registry is built from
the environment when it is first needed and then kept until it is dropped; a build that fails is not
kept. All other settings are read from the environment at every step. `Session.run` gives the answer
of a step and the next state.
-/

namespace ListQuery.Service

/-- The state of a running service. -/
structure Session where
  process : Process
  environment : Environment
  registry : Option Registry
  ledger : Ledger

/-- What a handler gives back: its response, the registry that is kept from now on, and the
events to count. -/
structure Handling where
  response : Response
  registry : Option Registry
  events : List Event

/-- The answer of a step. -/
inductive Answer where
  | done
  | unstorable (fault : Environment.Fault)
  | settings (logLevel : Text) (config : Config)
      (overrides : Except Json.Fault (Dictionary Override))
  | registry (names : List Text) (found : List (Option Resource))
  | limit (result : Except Refusal Int)
  | listQuery (result : Option (Except Refusal Selection)) (records : List LogRecord)
  | metrics (lines : List Text)
  | response (response : Response)
  | failed (fault : Json.Fault)

namespace Session

/-- The state in which a process starts under an environment: nothing is built or counted. -/
def initial (process : Process) (environment : Environment) : Session :=
  ⟨process, environment, none, .empty⟩

/-- The state in which nothing is configured. -/
def start : Session := initial .standard .empty

/-- The settings in effect. -/
def config (session : Session) : Config :=
  session.process.settings.inEffect session.environment

/-- The registry that has been built, or one that a step builds now. -/
def registry? (session : Session) (step : Step) : Except Json.Fault Registry :=
  match session.registry with
  | some registry => .ok registry
  | none => session.process.settings.registry session.environment (session.process.room step)

/-- The label under which a request is counted. -/
def label (request : Request) : Text :=
  match Endpoint.ofPath? request.path with
  | some endpoint =>
    if endpoint.methods.contains request.method then endpoint.template else Endpoint.unmatched
  | none => Endpoint.unmatched

/-- Whether a request is counted: not while metrics are disabled, and never the collection of
metrics itself, which is told by the path in the URL. -/
def isCounted (config : Config) (request : Request) : Bool :=
  config.metricsEnabled && Framework.Url.readPath request.path ≠ Endpoint.metrics.template

/-- The events of a request that was answered with a status. -/
def requestEvents (config : Config) (request : Request) (status : Nat) : List Event :=
  if isCounted config request then
    [.request request.method (label request) status, .timing request.method (label request)]
  else []

/-- The response to a list query on a resource that exists. -/
def answerQuery (config : Config) (resource : Resource) (request : Request) :
    Response × List Event :=
  let examination := request.query.examine config resource
  match examination.result with
  | .error refusal =>
    ({ Response.plain 400 (.refusal refusal) request.id with
        records := examination.records ++ [.queryInvalid request.id resource.name refusal] },
      examination.events)
  | .ok selection =>
    let records := examination.records ++
      [.queryAccepted request.id resource.name selection.fields.length selection.sort.length
        selection.filter.conditions.length selection.limit]
    (match QueryAnswer.ofSelection? resource.name selection request.id with
      | some answer =>
        { Response.plain 200 (.query answer) request.id with records := records }
      | none => .failed .unreadableNumber records,
      examination.events)

/-- The response of an endpoint. -/
def answerEndpoint (session : Session) (endpoint : Endpoint) (request : Request) : Handling :=
  match endpoint with
  | .health => ⟨.plain 200 .healthy request.id, session.registry, []⟩
  | .metrics =>
    if session.config.metricsEnabled then
      ⟨.plain 200 (.metrics session.ledger.lines) request.id, session.registry, []⟩
    else ⟨.plain 404 .empty request.id, session.registry, []⟩
  | .resources =>
    match session.registry? (.request request) with
    | .error fault => ⟨.failed (.configuration fault) [], session.registry, []⟩
    | .ok registry => ⟨.plain 200 (.resources registry.resources) request.id, some registry, []⟩
  | .query name =>
    match session.registry? (.request request) with
    | .error fault => ⟨.failed (.configuration fault) [], session.registry, []⟩
    | .ok registry =>
      match registry.find? name with
      | none =>
        ⟨.plain 404 (.detail "Unknown resource") request.id, some registry, []⟩
      | some resource =>
        let (response, events) := answerQuery session.config resource request
        ⟨response, some registry, events⟩
  | .page page =>
    ⟨{ Response.plain 200 .empty request.id with page := some page }, session.registry, []⟩

/-- The methods that the refusal of another one lists. -/
def allowed (session : Session) : Endpoint → Text
  | .page _ => session.process.pageMethods
  | endpoint => Text.join ", " endpoint.methods

/-- The response to a request. Where no endpoint answers it, Starlette does: it refuses the method
if an endpoint has the path, redirects a path that only has slashes too many, and finds nothing
otherwise. -/
def handle (session : Session) (request : Request) : Handling :=
  match Endpoint.ofPath? request.path with
  | some endpoint =>
    if endpoint.methods.contains request.method then session.answerEndpoint endpoint request
    else
      ⟨{ Response.plain 405 (.detail "Method Not Allowed") request.id with
          allow := some (session.allowed endpoint) },
        session.registry, []⟩
  | none =>
    match Endpoint.withoutTrailingSlashes? request.path with
    | some path =>
      ⟨{ Response.plain 307 .empty request.id with
          location := some (Framework.Url.header (Framework.Url.of path request.parameters)) },
        session.registry, []⟩
    | none => ⟨.plain 404 (.detail "Not Found") request.id, session.registry, []⟩

/-- The response to a request and the state after it. -/
def serve (session : Session) (request : Request) : Response × Session :=
  let handling := session.handle request
  let response := handling.response.sent
  (response,
    { session with
      registry := handling.registry
      ledger := session.ledger.record
        (handling.events ++ requestEvents session.config request response.status) })

/-- The examination of a list query on the resource of a name, and the state after it. -/
def listQuery (session : Session) (name : Text) (query : Query) : Answer × Session :=
  match session.registry? (.listQuery name query) with
  | .error fault => (.failed fault, session)
  | .ok registry =>
    match registry.find? name with
    | none => (.listQuery none [], { session with registry := some registry })
    | some resource =>
      let examination := query.examine session.config resource
      (.listQuery (some examination.result) examination.records,
        { session with
          registry := some registry
          ledger := session.ledger.record examination.events })

/-- The answer of a step and the state after it. -/
def run (session : Session) : Step → Answer × Session
  | .setVariable name value =>
    match session.environment.store name value with
    | .ok environment => (.done, { session with environment := environment })
    | .error fault => (.unstorable fault, session)
  | .unsetVariable name =>
    (.done, { session with environment := session.environment.unset name })
  | .resetRegistry => (.done, { session with registry := none })
  | .settings =>
    (.settings session.process.settings.logLevel session.config
      (session.process.settings.overrides session.environment (session.process.room .settings)),
      session)
  | .registry names =>
    match session.registry? (.registry names) with
    | .error fault => (.failed fault, session)
    | .ok registry =>
      (.registry registry.names (names.map registry.find?),
        { session with registry := some registry })
  | .parseLimit raw =>
    let examination := Query.examineLimit session.config raw
    (.limit examination.result,
      { session with ledger := session.ledger.record examination.events })
  | .listQuery name query => session.listQuery name query
  | .metrics => (.metrics session.ledger.lines, session)
  | .request request =>
    let (response, next) := session.serve request
    (.response response, next)

/-- The answers of some steps in order. -/
def runAll (session : Session) : List Step → List Answer
  | [] => []
  | step :: steps =>
    let (answer, next) := session.run step
    answer :: next.runAll steps

end Session

end ListQuery.Service
