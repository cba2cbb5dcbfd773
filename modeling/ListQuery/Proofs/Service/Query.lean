import ListQuery.Proofs.Examination
import ListQuery.Proofs.Service.Answer
import ListQuery.Proofs.Service.Run

/-!
# Queries on resources

The answer to a query, its records and its counted events all tell of one examination.
`answer_agrees` says so for every session and every query that it can look up a resource for: an
unknown resource is not examined, a refusal is reported as it is, and an answer tells which
selection it reports. The one thing that keeps a refusal from being reported is a column of the
configuration that has no encoded form.
-/

namespace ListQuery.Service

open Text

/-- All texts of a request have an encoded form, as those that were decoded from bytes have. -/
structure Request.IsEncodable (request : Request) : Prop where
  path : isEncodable request.path = true
  values : ∀ parameter ∈ request.parameters, isEncodable parameter.2 = true
  identifier : ∀ identifier ∈ request.identifier, isEncodable identifier = true
  fresh : isEncodable request.fresh = true

variable {request : Request}

/-- The value of a parameter has an encoded form if the request has one. -/
theorem Request.IsEncodable.parameter? (encodable : request.IsEncodable) {name value : Text}
    (found : request.parameter? name = some value) : isEncodable value = true := by
  obtain ⟨parameter, isParameter, rfl⟩ := Option.map_eq_some_iff.1 found
  rw [List.findRev?_eq_find?_reverse] at isParameter
  exact encodable.values parameter (List.mem_reverse.1 (List.mem_of_find?_eq_some isParameter))

/-- The query of a request has an encoded form if the request has one. -/
theorem Request.IsEncodable.query (encodable : request.IsEncodable) :
    request.query.IsEncodable := by
  have value : ∀ name, isEncodable ((request.parameter? name).getD []) = true := by
    intro name
    cases found : request.parameter? name with
    | none => rfl
    | some value => exact encodable.parameter? found
  exact ⟨value _, value _, value _, fun limit isLimit => encodable.parameter? isLimit⟩

/-- The identifier of a request has an encoded form if the request has one. -/
theorem Request.IsEncodable.id (encodable : request.IsEncodable) :
    isEncodable request.id = true := by
  unfold Request.id
  cases found : request.identifier.filter (· ≠ []) with
  | none => exact encodable.fresh
  | some identifier => exact encodable.identifier _ (Option.mem_filter_iff.1 found).1

/-! ## The endpoint -/

namespace Session

variable {session : Session} {registry : Registry} {name : Text}

/-- A query on a name that no resource has is answered without an examination. -/
theorem serve_of_unknown (get : request.isGet = true)
    (matched : Endpoint.ofPath? request.path = some (.query name))
    (inUse : session.registry? (.request request) = .ok registry)
    (unknown : registry.find? name = none) :
    session.serve request =
      (.plain 404 (.detail "Unknown resource") request.id,
        { session with
          registry := some registry
          ledger := session.ledger.record (requestEvents session.config request 404) }) := by
  have sent : (Response.plain 404 (.detail "Unknown resource") request.id).sent =
      .plain 404 (.detail "Unknown resource") request.id := by
    have encodable : (Body.detail "Unknown resource").failure? = none := by decide
    simp only [Response.sent, Response.plain, encodable]
  simp only [serve, handle_of_isGet (by simp) get matched, answerEndpoint, inUse, unknown, sent,
    List.nil_append]
  rfl

/-- A query fails with the registry that it cannot build. -/
theorem serve_of_fault {fault : Json.Fault} (get : request.isGet = true)
    (matched : Endpoint.ofPath? request.path = some (.query name))
    (failed : session.registry? (.request request) = .error fault) :
    session.serve request =
      (.failed (.configuration fault) [],
        { session with
          ledger := session.ledger.record (requestEvents session.config request 500) }) := by
  have sent : (Response.failed (.configuration fault) []).sent =
      .failed (.configuration fault) [] := rfl
  simp only [serve, handle_of_isGet (by simp) get matched, answerEndpoint, failed, sent,
    List.nil_append]
  rfl

/-- A query on a resource is answered by what its examination came to. -/
theorem serve_of_resource {resource : Resource} (get : request.isGet = true)
    (matched : Endpoint.ofPath? request.path = some (.query name))
    (inUse : session.registry? (.request request) = .ok registry)
    (found : registry.find? name = some resource) :
    session.serve request =
      let (answer, events) := answerQuery session.config resource request
      (answer.sent,
        { session with
          registry := some registry
          ledger := session.ledger.record
            (events ++ requestEvents session.config request answer.sent.status) }) := by
  simp only [serve, handle_of_isGet (by simp) get matched, answerEndpoint, inUse, found]

/-- The answer to a query that was refused. -/
theorem answerQuery_of_refused {config : Config} {resource : Resource} {refusal : Refusal}
    (refused : (request.query.examine config resource).result = .error refusal) :
    answerQuery config resource request =
      ({ Response.plain 400 (.refusal refusal) request.id with
          records := (request.query.examine config resource).records ++
            [.queryInvalid request.id resource.name refusal] },
        (request.query.examine config resource).events) := by
  simp only [answerQuery, refused]

/-- The answer to a query that was accepted, and can be sent. -/
theorem answerQuery_of_accepted {config : Config} {resource : Resource} {selection : Selection}
    (encodable : request.IsEncodable) (named : isEncodable resource.name = true)
    (accepted : (request.query.examine config resource).result = .ok selection) :
    ∃ answer, QueryAnswer.ofSelection? resource.name selection request.id = some answer ∧
      (Body.query answer).failure? = none ∧
      answerQuery config resource request =
        ({ Response.plain 200 (.query answer) request.id with
            records := (request.query.examine config resource).records ++
              [.queryAccepted request.id resource.name selection.fields.length
                selection.sort.length selection.filter.conditions.length selection.limit] },
          (request.query.examine config resource).events) := by
  obtain ⟨answer, isAnswer, sendable⟩ := exists_answer (Query.result_examine_eq_ok_iff.1 accepted)
    encodable.query named encodable.id
  exact ⟨answer, isAnswer, sendable, by simp only [answerQuery, accepted, isAnswer]⟩

end Session

/-- The resource that a query asks for has an encodable name. -/
theorem isEncodable_of_find? {registry : Registry} {resource : Resource} {name : Text}
    (keyed : registry.Keyed) (encodable : request.IsEncodable)
    (matched : Endpoint.ofPath? request.path = some (.query name))
    (found : registry.find? name = some resource) : isEncodable resource.name = true := by
  have asked : isEncodable name = true :=
    isEncodable_of_subset encodable.path (Endpoint.subset_of_query matched)
  rw [keyed.name_of_find? found, Registry.normalize]
  exact isEncodable_lower (isEncodable_of_subset asked fun c => mem_of_mem_trim)

/-! ## What an answer tells -/

/-- An expression was refused for another reason than its length. -/
def RejectsExpression (refusal : Refusal) : Prop :=
  (∃ parameter ∈ [Parameter.sort, .filter, .fields], refusal.parameter = parameter.name) ∧
    refusal.reason ≠ .tooLong

/-- A response reports a refusal, with one record of it and one more of a rejected expression. -/
structure Response.Refuses (response : Response) (request : Request) (resource : Text)
    (refusal : Refusal) : Prop where
  status : response.status = 400
  body : response.body = .refusal refusal
  identified : response.requestId = some request.id
  rejected : RejectsExpression refusal → ∃ parameter rejection,
    refusal = ⟨parameter.name, .rejected rejection.reason, rejection.token, rejection.expected⟩ ∧
      response.records = [.parameterRejected resource parameter rejection,
        .queryInvalid request.id resource refusal]
  alone : ¬ RejectsExpression refusal →
    response.records = [.queryInvalid request.id resource refusal]

/-- A response reports a selection, which its body tells, and one record counts what it holds. -/
structure Response.Accepts (response : Response) (request : Request) (resource : Text)
    (selection : Selection) (answer : QueryAnswer) : Prop where
  status : response.status = 200
  body : response.body = .query answer
  identified : response.requestId = some request.id
  recorded : response.records =
    [.queryAccepted request.id resource answer.fields.length answer.sort.length
      answer.conditions.length answer.limit]
  reported : QueryAnswer.ofSelection? resource selection request.id = some answer
  unique : ∀ {otherResource otherId other},
    QueryAnswer.ofSelection? otherResource other otherId = some answer → other = selection

/-- The refusal of a parameter is recorded exactly if an expression was rejected. -/
theorem records_of_isRefusal {parameter : Parameter} {refusal : Refusal} (resource : Text)
    (isRefusal : Query.IsRefusal parameter refusal) :
    (RejectsExpression refusal → ∃ rejection, refusal = .ofRejection parameter.name rejection ∧
      refusal.records resource parameter = [.parameterRejected resource parameter rejection]) ∧
    (¬ RejectsExpression refusal → refusal.records resource parameter = []) := by
  obtain ⟨named, admitted⟩ := isRefusal
  obtain ⟨name, reason, token, expected⟩ := refusal
  obtain rfl : name = parameter.name := named
  have ofLimit : parameter = .limit →
      ¬ RejectsExpression ⟨parameter.name, reason, token, expected⟩ := by
    rintro rfl ⟨⟨other, isOther, same⟩, -⟩
    have isLimit : Parameter.limit = other := Parameter.name_injective same
    subst isLimit
    simp at isOther
  cases reason with
  | rejected reason =>
    have expression : parameter ∈ [Parameter.sort, .filter, .fields] := by
      cases parameter <;> simp_all [Parameter.isRefusedFor]
    refine ⟨fun _ => ⟨⟨reason, token, expected⟩, rfl, rfl⟩, fun none => ?_⟩
    exact absurd ⟨⟨parameter, expression, rfl⟩, by simp⟩ none
  | tooLong => exact ⟨fun rejects => absurd rfl rejects.2, fun _ => rfl⟩
  | notAnInteger | outOfRange =>
    have limit : parameter = .limit := by cases parameter <;> simp_all [Parameter.isRefusedFor]
    exact ⟨fun rejects => absurd rejects (ofLimit limit), fun _ => rfl⟩

/-- A refusal is sent as it is if its texts have an encoded form, and fails to be sent otherwise. -/
theorem sent_of_refused {refusal : Refusal} {records : List LogRecord} :
    let response := { Response.plain 400 (.refusal refusal) request.id with records := records }
    (refusal.texts.all isEncodable = true → response.sent = response) ∧
      (refusal.texts.all isEncodable = false →
        response.sent = .failed .unencodableDetail records) := by
  constructor
  · intro encodable
    simp only [Response.sent, Response.plain, Body.failure?, Body.texts, encodable, if_true]
  · intro unencodable
    simp only [Response.sent, Response.plain, Body.failure?, Body.texts, unencodable]
    rfl

/-- An answer that has an encoded form is sent. -/
theorem sent_of_answer {answer : QueryAnswer} {records : List LogRecord}
    (sendable : (Body.query answer).failure? = none) :
    let response := { Response.plain 200 (.query answer) request.id with records := records }
    response.sent = response := by
  simp only [Response.sent, Response.plain, sendable]

/-- A refusal that has no encoded form lists a column that has none. -/
theorem exists_unencodable {resource : Resource} {refusal : Refusal}
    (told : refusal.IsEncodableUnder resource)
    (unsendable : refusal.texts.all isEncodable = false) :
    ∃ column ∈ resource.columns, isEncodable column = false := by
  by_contra none
  have columns : AllEncodable resource.columns := by
    intro column member
    by_contra unencodable
    exact none ⟨column, member, by simpa using unencodable⟩
  simp [told columns] at unsendable

section Examined

variable {config : Config} {resource : Resource}

/-- A query that was refused is answered with the refusal, if that has an encoded form. -/
theorem refuses_of_examine {refusal : Refusal}
    (refused : (request.query.examine config resource).result = .error refusal)
    (sendable : refusal.texts.all isEncodable = true) :
    (Session.answerQuery config resource request).1.sent.Refuses request resource.name
      refusal := by
  rw [Session.answerQuery_of_refused refused, sent_of_refused.1 sendable]
  cases Query.examine_cases config resource request.query with
  | accepted selection result => simp [refused] at result
  | refused parameter other isRefusal result counted recorded =>
    cases refused.symm.trans result
    obtain ⟨rejects, alone⟩ := records_of_isRefusal resource.name isRefusal
    rw [recorded]
    refine ⟨rfl, rfl, rfl, fun expression => ?_, fun other => ?_⟩
    · obtain ⟨rejection, isRejection, one⟩ := rejects expression
      exact ⟨parameter, rejection, isRejection, by simp [one]⟩
    · simp [alone other]

/-- The service fails on a query whose refusal has no encoded form, for a column of the resource
that has none. -/
theorem fails_of_examine {refusal : Refusal} (encodable : request.IsEncodable)
    (refused : (request.query.examine config resource).result = .error refusal)
    (unsendable : refusal.texts.all isEncodable = false) :
    let response := (Session.answerQuery config resource request).1.sent
    response.status = 500 ∧ response.failure = some .unencodableDetail ∧
      ∃ column ∈ resource.columns, isEncodable column = false := by
  have told := (Query.meets_examine encodable.query).of_error refused
  rw [Session.answerQuery_of_refused refused, sent_of_refused.2 unsendable]
  exact ⟨rfl, rfl, exists_unencodable told unsendable⟩

/-- A query that was accepted is answered with its selection. -/
theorem accepts_of_examine {selection : Selection} (encodable : request.IsEncodable)
    (named : isEncodable resource.name = true)
    (accepted : (request.query.examine config resource).result = .ok selection) :
    ∃ answer, (Session.answerQuery config resource request).1.sent.Accepts request resource.name
      selection answer := by
  obtain ⟨answer, isAnswer, sendable, answered⟩ :=
    Session.answerQuery_of_accepted encodable named accepted
  refine ⟨answer, ?_⟩
  rw [answered, sent_of_answer sendable]
  cases Query.examine_cases config resource request.query with
  | refused parameter refusal isRefusal result => simp [accepted] at result
  | accepted other result counted recorded =>
    refine ⟨rfl, rfl, rfl, ?_, isAnswer, fun isOther => selection_unique isOther isAnswer⟩
    obtain ⟨conditions, areConditions, rfl⟩ := Option.map_eq_some_iff.1 isAnswer
    have length := (mapM_eq_some_iff.1 areConditions).length_eq
    simp [recorded, length]

end Examined

/-- The events of a request itself count no parameter. -/
theorem count_requestEvents {config : Config} {status : Nat} (parameter : Parameter)
    (refused : Option Refusal.Reason) :
    (Session.requestEvents config request status).count (.validation parameter refused) = 0 := by
  unfold Session.requestEvents
  split <;> rfl

/-- The answer to a query agrees with its examination, for every session that has a registry: no
resource, no examination; a refusal is reported as it is, unless it lists a column that has no
encoded form; and a selection is reported so that it is told by its answer. -/
theorem answer_agrees (process : Process) (environment : Environment) (steps : List Step)
    (request : Request) (registry : Registry) (name : Text) (get : request.isGet = true)
    (matched : Endpoint.ofPath? request.path = some (.query name))
    (encodable : request.IsEncodable)
    (inUse : Session.registry? ((Session.initial process environment).after steps)
      (.request request) = .ok registry) :
    let session := (Session.initial process environment).after steps
    let response := (session.serve request).1
    let ledger := (session.serve request).2.ledger
    (registry.find? name = none →
      response = .plain 404 (.detail "Unknown resource") request.id ∧
      ∀ parameter refused, ledger.count (.validation parameter refused) =
        session.ledger.count (.validation parameter refused)) ∧
    ∀ resource, registry.find? name = some resource →
      (∀ refusal, (request.query.examine session.config resource).result = .error refusal →
        (refusal.texts.all isEncodable = true →
          response.Refuses request resource.name refusal) ∧
        (refusal.texts.all isEncodable = false →
          response.status = 500 ∧ response.failure = some .unencodableDetail ∧
            ∃ column ∈ resource.columns, isEncodable column = false)) ∧
      ∀ selection, (request.query.examine session.config resource).result = .ok selection →
        ∃ answer, response.Accepts request resource.name selection answer := by
  intro session response ledger
  have keyed : session.Keyed :=
    Session.after_induction _ steps (fun _ kept => by simp [Session.initial] at kept)
      fun _ keyed step _ => keyed.run step
  constructor
  · intro unknown
    have served := Session.serve_of_unknown get matched inUse unknown
    refine ⟨congrArg Prod.fst served, fun parameter refused => ?_⟩
    have kept : ledger = session.ledger.record (Session.requestEvents session.config request 404) :=
      congrArg (fun served => served.2.ledger) served
    rw [kept, Ledger.record, Ledger.count, List.count_append, count_requestEvents]
    rfl
  intro resource found
  have named := isEncodable_of_find? (keyed.of_inUse inUse) encodable matched found
  have served : response = (Session.answerQuery session.config resource request).1.sent :=
    congrArg Prod.fst (Session.serve_of_resource get matched inUse found)
  rw [served]
  constructor
  · intro refusal refused
    exact ⟨refuses_of_examine refused, fails_of_examine encodable refused⟩
  · exact fun selection => accepts_of_examine encodable named

/-- A query for a sort order of users is answered with the selection that it asks for. -/
theorem answer_agrees_users :
    ∃ answer, ((Session.after Session.start [.resetRegistry]).serve
      ⟨"GET", "/resources/Users/query", [("sort", "id asc")], none, "fresh"⟩).1.Accepts
        ⟨"GET", "/resources/Users/query", [("sort", "id asc")], none, "fresh"⟩ "users"
        ⟨[], [⟨"id", .ascending⟩], .empty, 10⟩ answer := by
  have encodable : Request.IsEncodable
      ⟨"GET", "/resources/Users/query", [("sort", "id asc")], none, "fresh"⟩ :=
    ⟨by decide, by decide, by simp, by decide⟩
  have agrees := answer_agrees .standard .empty [.resetRegistry]
    ⟨"GET", "/resources/Users/query", [("sort", "id asc")], none, "fresh"⟩ .defaults "Users"
    (by decide) (by decide) encodable (by rfl)
  have found : Registry.defaults.find? "Users" = Resource.defaults[0] := by decide +kernel
  obtain ⟨-, accepts⟩ := agrees.2 _ found
  exact accepts ⟨[], [⟨"id", .ascending⟩], .empty, 10⟩ (by decide +kernel)

/-- A configuration with a resource that may be sorted by half of a surrogate pair. -/
def halfPairColumns : Text :=
  "\x7b\x22b\x22:\x7b\x22sort\x22:[\x22\\udfff\x22,\x22c\x22]," ++
    "\x22filter\x22:[\x22c\x22],\x22fields\x22:[\x22c\x22]\x7d\x7d"

/-- A query that asks to sort that resource by another column. -/
def halfPairRequest : Request :=
  ⟨"GET", "/resources/b/query", [("sort", "x asc")], some "r", []⟩

/-- The request of such a query has an encoded form. -/
theorem isEncodable_halfPairRequest : halfPairRequest.IsEncodable :=
  ⟨by decide, by decide, by decide, by decide⟩

/-- A refusal that lists a column without an encoded form is not reported. -/
theorem refusal_unreported :
    ∃ steps registry resource refusal,
      halfPairRequest.isGet = true ∧
      Endpoint.ofPath? halfPairRequest.path = some (.query "b") ∧ halfPairRequest.IsEncodable ∧
      Session.registry? (Session.start.after steps) (.request halfPairRequest) = .ok registry ∧
      registry.find? "b" = some resource ∧
      (halfPairRequest.query.examine (Session.after Session.start steps).config resource).result =
        .error refusal ∧
      ¬ ((Session.after Session.start steps).serve halfPairRequest).1.Refuses halfPairRequest
        resource.name refusal := by
  refine ⟨[.setVariable "LISTQ_RESOURCE_COLUMNS" halfPairColumns],
    .ofOverrides [("b", ⟨some ["c"], some ["c"], some [[.surrogate 0x7FF], "c"], none⟩)],
    ⟨"b", ["c"], ["c"], [[.surrogate 0x7FF], "c"], none⟩,
    ⟨"sort", .rejected .unknownColumn, some "x",
      some ("one of " ++ join ", " [[.surrogate 0x7FF], "c"])⟩,
    by decide, by decide, isEncodable_halfPairRequest, ?_, ?_, ?_, ?_⟩
  · decide +kernel
  · decide +kernel
  · decide +kernel
  · intro refuses
    have status := refuses.status
    revert status
    decide +kernel

end ListQuery.Service
