import ListQuery.Proofs.FirstFault
import ListQuery.Proofs.Reasons
import ListQuery.Proofs.Service.Run
import ListQuery.Proofs.Text.Order

/-!
# Labels of counters

Counters have few labels, whatever clients send. A request is counted under the template of the
endpoint that it matches, and a parameter under a reason for which it can be refused. So the label
of a path or a reason is one of a fixed list after any steps (`labels_bounded`).
-/

namespace ListQuery

/-- The reasons under which a refused parameter is counted. -/
def Parameter.reasonLabels : Parameter → List Text
  | sort =>
    ["too_long", "empty_allow_list", "unknown_column", "cardinality_mismatch", "unknown_direction"]
  | filter =>
    ["too_long", "empty_allow_list", "unknown_column", "bad_comparator", "bad_literal",
      "cardinality_mismatch", "malformed"]
  | fields => ["too_long", "empty_allow_list", "unknown_column"]
  | limit => ["not_an_integer", "out_of_range"]

/-- The labels under which requests are counted: the paths of the service itself, those of the pages
that its framework adds, and one for all other paths. -/
def Service.Endpoint.pathLabels : List Text :=
  ["/metrics", "/health", "/resources", "/resources/\x7bresource\x7d/query", "/openapi.json",
    "/docs", "/docs/oauth2-redirect", "/redoc", "unmatched"]

/-- The name of the counter of parameters. -/
def Event.validationCounter : Text := "list_query_validations_total"

/-- The names of the counters of requests. -/
def Event.requestCounters : List Text :=
  ["http_requests_total", "http_request_duration_seconds_count"]

/-- The labels of an event are from fixed lists, the method of a request and the status of its
answer aside. -/
structure Event.IsBounded (event : Event) : Prop where
  path : event.counter ∈ requestCounters →
    ∃ path ∈ Service.Endpoint.pathLabels, event.labels.lookup ("path" : Text) = some path
  validation : event.counter = validationCounter →
    ∃ (parameter : Parameter) (outcome reason : Text),
      event.labels = ([("outcome", outcome), ("parameter", parameter.name), ("reason", reason)] :
          List (Text × Text)) ∧
        (reason = [] ↔ outcome = "accepted") ∧
        (outcome ≠ "accepted" → outcome = "rejected" ∧ reason ∈ parameter.reasonLabels)

namespace Event

/-- A parameter that was accepted, or refused for one of its reasons, has bounded labels. -/
theorem isBounded_validation {parameter : Parameter} {refused : Option Refusal.Reason}
    (admitted : ∀ reason ∈ refused, reason.name ∈ parameter.reasonLabels) :
    (validation parameter refused).IsBounded where
  path counted := by
    have other : validationCounter ∉ requestCounters := by decide
    exact absurd counted other
  validation _ := by
    cases refused with
    | none => exact ⟨parameter, "accepted", [], rfl, by simp, fun other => absurd rfl other⟩
    | some reason =>
      have listed := admitted reason rfl
      have named : reason.name ≠ [] := by
        intro nameless
        rw [nameless] at listed
        cases parameter <;> revert listed <;> decide
      refine ⟨parameter, "rejected", reason.name, rfl, ?_, fun _ => ⟨rfl, listed⟩⟩
      exact iff_of_false named (by decide)

/-- A request under a listed label has bounded labels. -/
theorem isBounded_request {path : Text} (listed : path ∈ Service.Endpoint.pathLabels)
    (method : Text) (status : Nat) : (request method path status).IsBounded where
  path _ := ⟨path, listed, rfl⟩
  validation counted := by
    have other : Text.of "http_requests_total" ≠ validationCounter := by decide
    exact absurd counted other

/-- The timing of a request under a listed label has bounded labels. -/
theorem isBounded_timing {path : Text} (listed : path ∈ Service.Endpoint.pathLabels)
    (method : Text) : (timing method path).IsBounded where
  path _ := ⟨path, listed, rfl⟩
  validation counted := by
    have other : Text.of "http_request_duration_seconds_count" ≠ validationCounter := by decide
    exact absurd counted other

end Event

namespace Query

variable {config : Config} {event : Event}

/-- What a sequence of examinations counts was counted by one of them. -/
theorem mem_events_andThen {α β : Type} {examination : Examination α} {next : α → Examination β}
    (member : event ∈ (examination.andThen next).events) :
    event ∈ examination.events ∨ ∃ value, event ∈ (next value).events := by
  unfold Examination.andThen at member
  split at member
  · exact .inl member
  · exact (List.mem_append.1 member).imp_right fun later => ⟨_, later⟩

/-- What a counted parameter counts has bounded labels if it was accepted, or refused for one of its
reasons. -/
theorem isBounded_of_counted {α : Type} {parameter : Parameter} {result : Except Refusal α}
    {records : List LogRecord}
    (admitted : Meets (fun refusal => refusal.reason.name ∈ parameter.reasonLabels)
      (fun _ => True) result)
    (member : event ∈ (Examination.counted config parameter result records).events) :
    event.IsBounded := by
  unfold Examination.counted at member
  dsimp only at member
  split at member
  · cases admitted with
    | error met =>
      rw [List.mem_singleton.1 member]
      exact Event.isBounded_validation fun reason isReason => Option.mem_some.1 isReason ▸ met
    | ok met =>
      rw [List.mem_singleton.1 member]
      exact Event.isBounded_validation fun reason isReason => absurd isReason (by simp)
  · simp at member

/-- What the examination of an expression counts has bounded labels if its reader rejects for the
reasons of the parameter only. -/
theorem isBounded_of_expression {α : Type} {resource raw : Text} {parameter : Parameter}
    {parsed : Except Rejection α} {reasons : List Reason} (fails : FailsFor reasons parsed)
    (tooLong : Text.of "too_long" ∈ parameter.reasonLabels)
    (listed : ∀ reason ∈ reasons, reason.name ∈ parameter.reasonLabels)
    (member : event ∈ (examineExpression config resource parameter raw parsed).events) :
    event.IsBounded := by
  rw [examineExpression_eq] at member
  refine isBounded_of_counted ?_ member
  unfold outcome
  split
  · exact .error tooLong
  · exact fails.mapError fun rejection isReason => listed rejection.reason isReason

/-- What the examination of a limit counts has bounded labels. -/
theorem isBounded_of_limit {raw : Option Text} (member : event ∈ (examineLimit config raw).events) :
    event.IsBounded := by
  refine isBounded_of_counted ?_ member
  cases parsed : Limit.parse config.limits raw with
  | ok limit => exact .ok trivial
  | error refusal =>
    have reason := (isRefusal_of_limit parsed).reason
    refine .error ?_
    cases kind : refusal.reason <;>
      simp_all [Parameter.isRefusedFor, Refusal.Reason.name, Parameter.reasonLabels]

/-- What the examination of a query counts has bounded labels. -/
theorem isBounded_of_examine {resource : Resource} {query : Query}
    (member : event ∈ (examine config resource query).events) : event.IsBounded := by
  rcases mem_events_andThen member with sort | ⟨keys, member⟩
  · exact isBounded_of_expression (Sort.failsFor_parse _ _) (by decide) (by decide) sort
  rcases mem_events_andThen member with filter | ⟨conditions, member⟩
  · exact isBounded_of_expression (Filter.failsFor_parse _ _) (by decide) (by decide) filter
  rcases mem_events_andThen member with fields | ⟨columns, member⟩
  · exact isBounded_of_expression (Fields.failsFor_parse _ _) (by decide) (by decide) fields
  rcases mem_events_andThen member with limit | ⟨number, member⟩
  · exact isBounded_of_limit limit
  · simp at member

/-- The examination of a query counts parameters only. -/
theorem counter_of_examine {resource : Resource} {query : Query}
    (member : event ∈ (examine config resource query).events) :
    event.counter = Event.validationCounter := by
  have each : ∀ fault, ∀ event ∈ events config fault,
      event.counter = Event.validationCounter := by
    intro fault event member
    unfold events countedIf at member
    split at member
    · cases fault with
      | none =>
        obtain ⟨parameter, -, rfl⟩ := List.mem_map.1 member
        rfl
      | some fault =>
        rcases List.mem_append.1 member with before | refused
        · obtain ⟨parameter, -, rfl⟩ := List.mem_map.1 before
          rfl
        · rw [List.mem_singleton.1 refused]
          rfl
    · simp at member
  cases examine_cases config resource query with
  | refused parameter refusal isRefusal result counted => exact each _ event (counted ▸ member)
  | accepted selection result counted => exact each _ event (counted ▸ member)

end Query

namespace Service

/-! ## Requests -/

/-- The label of a request is a listed one. -/
theorem label_mem_pathLabels (request : Request) :
    Session.label request ∈ Endpoint.pathLabels := by
  have unmatched : Endpoint.unmatched ∈ Endpoint.pathLabels := by decide
  unfold Session.label
  split
  · rename_i endpoint matched
    split
    · cases endpoint with
      | metrics | health | resources => decide
      | query name => exact (by decide : Endpoint.queryTemplate ∈ Endpoint.pathLabels)
      | page shown => cases shown <;> decide
    · exact unmatched
  · exact unmatched

/-- What a request itself counts has bounded labels. -/
theorem isBounded_of_request {config : Config} {request : Request} {status : Nat} {event : Event}
    (member : event ∈ Session.requestEvents config request status) : event.IsBounded := by
  have listed := label_mem_pathLabels request
  unfold Session.requestEvents at member
  split at member
  · simp only [List.mem_cons, List.not_mem_nil, or_false] at member
    rcases member with rfl | rfl
    · exact Event.isBounded_request listed request.method status
    · exact Event.isBounded_timing listed request.method
  · simp at member

/-- What a step counts has bounded labels. -/
theorem isBounded_of_step {config : Config} {step : Step} {events : List Event}
    (counted : Session.Counted config step events) : ∀ event ∈ events, event.IsBounded := by
  cases counted with
  | nothing => simp
  | limit raw => exact fun event => Query.isBounded_of_limit
  | query name query resource => exact fun event => Query.isBounded_of_examine
  | apart request status => exact fun event => isBounded_of_request
  | examined resource status =>
    exact List.forall_mem_append.2
      ⟨fun event => Query.isBounded_of_examine, fun event => isBounded_of_request⟩

/-- A path with a line feed behind it matches as it does without. -/
theorem dropLineFeed_append {path ending : Text} (noLineFeed : path.getLast? ≠ some (.scalar '\n'))
    (ends : ending = [] ∨ ending = "\n") : Framework.dropLineFeed (path ++ ending) = path := by
  unfold Framework.dropLineFeed
  rcases ends with rfl | rfl
  · rw [List.append_nil]
    exact if_neg noLineFeed
  · have last : Text.of "\n" = [.scalar '\n'] := rfl
    rw [last, List.getLast?_concat]
    exact (if_pos rfl).trans List.dropLast_concat

/-- The path of a query on a resource of any name. -/
theorem ofPath?_of_query {name ending : Text} (nonempty : name ≠ [])
    (segment : .scalar '/' ∉ name) (ends : ending = [] ∨ ending = "\n") :
    Endpoint.ofPath? ("/resources/" ++ name ++ "/query" ++ ending) = some (.query name) := by
  have noLineFeed : (Text.of "/resources/" ++ name ++ Text.of "/query").getLast? ≠
      some (.scalar '\n') := by
    rw [List.getLast?_append_of_ne_nil _ (by decide)]
    decide
  have joined : Text.of "/resources/" ++ name ++ Text.of "/query" =
      Text.join [.scalar '/'] [[], "resources", name, "query"] := by
    simp [Text.join, List.intercalate, Text.of]
  have segments : Text.pieces '/' (Text.of "/resources/" ++ name ++ Text.of "/query") =
      [[], "resources", name, "query"] := by
    rw [joined, Text.pieces_join (by simp)]
    simp only [List.forall_mem_cons]
    exact ⟨by simp, by decide, segment, by decide, by simp⟩
  rw [Endpoint.ofPath?, dropLineFeed_append noLineFeed ends, segments]
  simp [Endpoint.ofSegments?, Framework.isParameter, nonempty]

/-- A request for the metrics is never counted. -/
theorem ledger_of_metricsPath {session : Session} {request : Request}
    (path : request.path = "/metrics") :
    (session.run (.request request)).2.ledger = session.ledger := by
  have matched : Endpoint.ofPath? request.path = some .metrics := by rw [path]; decide
  have uncounted : ∀ status, Session.requestEvents session.config request status = [] := by
    intro status
    have same : Framework.Url.readPath request.path = Endpoint.metrics.template := by
      rw [path]
      decide
    simp [Session.requestEvents, Session.isCounted, same]
  have handled : (session.handle request).events = [] := by
    cases session.handle_cases request with
    | apart kept uncounted | looked registry inUse kept uncounted => exact uncounted
    | examined registry name resource get isQuery => simp [matched] at isQuery
  show session.ledger.record _ = session.ledger
  rw [handled, uncounted, List.nil_append, Ledger.record_nil]

/-- The label under which queries are counted, whatever resource they name. -/
def queryLabel : Text := "/resources/\x7bresource\x7d/query"

/-- A query on a resource of any name is counted and timed once under the template of queries while
metrics are enabled, and beside it nothing is counted but its parameters. -/
theorem count_of_queryPath {session : Session} {request : Request} {name ending : Text}
    (get : request.method = "GET") (nonempty : name ≠ []) (segment : .scalar '/' ∉ name)
    (ends : ending = [] ∨ ending = "\n")
    (path : request.path = "/resources/" ++ name ++ "/query" ++ ending) :
    ∃ response : Response, (session.run (.request request)).1 = .response response ∧
      ∀ event : Event, event.counter ≠ Event.validationCounter →
        (session.run (.request request)).2.ledger.count event = session.ledger.count event +
          if session.config.metricsEnabled = true ∧
            event ∈ [.request "GET" queryLabel response.status, .timing "GET" queryLabel] then 1
          else 0 := by
  have matched : Endpoint.ofPath? request.path = some (.query name) := by
    rw [path]
    exact ofPath?_of_query nonempty segment ends
  have isGet : request.isGet = true := by simp [Request.isGet, get]
  have label : Session.label request = queryLabel :=
    label_eq_queryTemplate_iff.2 ⟨isGet, name, matched⟩
  have itself : ∀ status, Session.requestEvents session.config request status =
      Query.countedIf session.config
        [.request "GET" queryLabel status, .timing "GET" queryLabel] := by
    intro status
    rw [Session.requestEvents, isCounted_of_query matched, label, get]
    rfl
  have validations : ∀ event ∈ (session.handle request).events,
      event.counter = Event.validationCounter := by
    cases session.handle_cases request with
    | apart kept uncounted | looked registry inUse kept uncounted => simp [uncounted]
    | examined registry name resource get matched inUse kept counted =>
      rw [counted]
      exact fun event => Query.counter_of_examine
  refine ⟨(session.handle request).response.sent, rfl, fun event other => ?_⟩
  have none : (session.ledger.record (session.handle request).events).count event =
      session.ledger.count event := by
    rw [Ledger.count, Ledger.record, List.count_append,
      List.count_eq_zero.2 fun member => other (validations event member), Nat.add_zero]
    rfl
  show (session.ledger.record ((session.handle request).events ++ _)).count event = _
  rw [itself, Ledger.record_append, Query.count_record_countedIf (by simp), none]

/-- After any steps the labels of all counters are bounded. A query is counted under one label
whatever resource it names, and a request for the metrics is not counted. -/
theorem labels_bounded (process : Process) (environment : Environment) (steps : List Step) :
    let session := (Session.initial process environment).after steps
    (∀ event ∈ session.ledger.events, event.IsBounded) ∧
    (∀ line ∈ session.ledger.lines,
      ∃ (event : Event) (count : Nat), line = event.line count ∧ event.IsBounded) ∧
    (∀ (request : Request) (name ending : Text), request.method = "GET" → name ≠ [] →
      .scalar '/' ∉ name → (ending = [] ∨ ending = "\n") →
      request.path = "/resources/" ++ name ++ "/query" ++ ending →
      ∃ response : Response, (session.run (.request request)).1 = .response response ∧
        ∀ event : Event, event.counter ≠ Event.validationCounter →
          (session.run (.request request)).2.ledger.count event = session.ledger.count event +
            if session.config.metricsEnabled = true ∧
              event ∈ [.request "GET" queryLabel response.status, .timing "GET" queryLabel] then 1
            else 0) ∧
    ∀ request : Request, request.path = "/metrics" →
      (session.run (.request request)).2.ledger = session.ledger := by
  intro session
  have bounded : ∀ event ∈ session.ledger.events, event.IsBounded := by
    refine Session.after_induction (fun session => ∀ event ∈ session.ledger.events, event.IsBounded)
      steps (by simp [Session.initial, Ledger.empty]) fun session bounded step _ => ?_
    obtain ⟨events, counted, recorded⟩ := session.counted_of_run step
    rw [recorded]
    exact List.forall_mem_append.2 ⟨bounded, isBounded_of_step counted⟩
  refine ⟨bounded, fun line shown => ?_, fun request name ending => count_of_queryPath,
    fun request => ledger_of_metricsPath⟩
  obtain ⟨event, member, rfl⟩ := List.mem_map.1 (Text.mem_sortedDistinct.1 shown)
  exact ⟨event, _, rfl, bounded event member⟩

/-- A query on a name that holds a line feed and no resource has, with one line feed more behind its
path, is counted under the template of queries. -/
theorem labels_bounded_lineFeeds :
    ∃ response : Response,
      (Session.start.run (.request
        ⟨"GET", "/resources/a\nb?/query\n", [], some "r", []⟩)).1 = .response response ∧
      (Session.start.run (.request
        ⟨"GET", "/resources/a\nb?/query\n", [], some "r", []⟩)).2.ledger.count
          (.request "GET" queryLabel response.status) = 1 := by
  obtain ⟨-, -, queries, -⟩ := labels_bounded .standard .empty []
  obtain ⟨response, answered, counted⟩ :=
    queries ⟨"GET", "/resources/a\nb?/query\n", [], some "r", []⟩ "a\nb?" "\n" rfl (by decide)
      (by decide) (.inr rfl) (by decide)
  have aside : Text.of "http_requests_total" ≠ Event.validationCounter := by decide
  have enabled : (Session.after (.initial .standard .empty) []).config.metricsEnabled = true := by
    decide
  refine ⟨response, answered, (counted (.request "GET" queryLabel response.status) aside).trans ?_⟩
  rw [if_pos ⟨enabled, List.mem_cons_self⟩]
  rfl

end Service

end ListQuery
