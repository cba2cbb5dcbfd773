import Mathlib.Algebra.BigOperators.Group.List.Lemmas
import Mathlib.Algebra.GroupWithZero.Nat
import Mathlib.Data.List.Dedup
import ListQuery.Proofs.Service.Query

/-!
# Accounting over runs

Every step moves counters together. A query counts each parameter that it looks at, and every
timed request has a status, so the sums of the counters agree after any steps (`Balanced`), also
while metrics are switched on and off. If all queries come as requests whose refusals can be sent,
the refused and the accepted parameters agree with the statuses (`Settled`).
-/

namespace ListQuery

namespace Event

/-- An event counts an accepted parameter. -/
def isAccepted (parameter : Parameter) : Event → Bool
  | validation counted none => counted = parameter
  | _ => false

/-- An event counts a refused parameter. -/
def isRefused (parameter : Parameter) : Event → Bool
  | validation counted (some _) => counted = parameter
  | _ => false

/-- An event counts a refusal of any parameter. -/
def isRefusal : Event → Bool
  | validation _ (some _) => true
  | _ => false

/-- An event counts a request under a method and a path, whatever the status of its answer. -/
def isRequest (method path : Text) : Event → Bool
  | request countedMethod countedPath _ => countedMethod = method && countedPath = path
  | _ => false

end Event

namespace Ledger

/-- The sum of all counters of a kind. -/
def total (ledger : Ledger) (kind : Event → Bool) : Nat :=
  ((ledger.events.dedup.filter kind).map ledger.count).sum

/-- The sum of the counters of a kind is the number of events of that kind. -/
theorem total_eq_countP (ledger : Ledger) (kind : Event → Bool) :
    ledger.total kind = ledger.events.countP kind :=
  List.sum_map_count_dedup_filter_eq_countP kind ledger.events

/-- More events add to every sum. -/
theorem total_record (ledger : Ledger) (events : List Event) (kind : Event → Bool) :
    (ledger.record events).total kind = ledger.total kind + (Ledger.mk events).total kind := by
  simp only [total_eq_countP, record, List.countP_append]

/-- More events add to every counter. -/
theorem count_record (ledger : Ledger) (events : List Event) (event : Event) :
    (ledger.record events).count event = ledger.count event + (Ledger.mk events).count event := by
  simp only [count, record, List.count_append]

/-- The parameters are counted in the order in which a query looks at them, and every timed request
is counted with its status. -/
structure Balanced (ledger : Ledger) : Prop where
  filter : ledger.total (Event.isAccepted .sort) =
    ledger.total (Event.isAccepted .filter) + ledger.total (Event.isRefused .filter)
  fields : ledger.total (Event.isAccepted .filter) =
    ledger.total (Event.isAccepted .fields) + ledger.total (Event.isRefused .fields)
  limit : ledger.total (Event.isAccepted .fields) =
    ledger.total (Event.isAccepted .limit) + ledger.total (Event.isRefused .limit)
  timed : ∀ method path,
    ledger.count (.timing method path) = ledger.total (Event.isRequest method path)

/-- Events are balanced if there are the right numbers of them. -/
theorem Balanced.of_countP {events : List Event}
    (filter : events.countP (Event.isAccepted .sort) =
      events.countP (Event.isAccepted .filter) + events.countP (Event.isRefused .filter))
    (fields : events.countP (Event.isAccepted .filter) =
      events.countP (Event.isAccepted .fields) + events.countP (Event.isRefused .fields))
    (limit : events.countP (Event.isAccepted .fields) =
      events.countP (Event.isAccepted .limit) + events.countP (Event.isRefused .limit))
    (timed : ∀ method path,
      events.count (.timing method path) = events.countP (Event.isRequest method path)) :
    (Ledger.mk events).Balanced := by
  constructor <;> simp only [total_eq_countP] <;> assumption

/-- A ledger stays balanced with events that are. -/
theorem Balanced.record {ledger : Ledger} {events : List Event} (balanced : ledger.Balanced)
    (more : (Ledger.mk events).Balanced) : (ledger.record events).Balanced := by
  constructor
  · rw [total_record, total_record, total_record, balanced.filter, more.filter]
    omega
  · rw [total_record, total_record, total_record, balanced.fields, more.fields]
    omega
  · rw [total_record, total_record, total_record, balanced.limit, more.limit]
    omega
  · intro method path
    rw [count_record, total_record, balanced.timed, more.timed]

/-- No events are balanced. -/
theorem balanced_empty : Ledger.empty.Balanced :=
  ⟨rfl, rfl, rfl, fun _ _ => rfl⟩

/-- The refusals of queries are as many as requests for them that are answered with a refusal, and
the queries accepted to the end are as many as those that are answered with a selection. -/
structure Settled (ledger : Ledger) : Prop where
  refused : ledger.total Event.isRefusal =
    ledger.count (.request "GET" Service.Endpoint.queryTemplate 400)
  accepted : ledger.total (Event.isAccepted .limit) =
    ledger.count (.request "GET" Service.Endpoint.queryTemplate 200)

/-- Events are settled if there are the right numbers of them. -/
theorem Settled.of_countP {events : List Event}
    (refused : events.countP Event.isRefusal =
      events.count (.request "GET" Service.Endpoint.queryTemplate 400))
    (accepted : events.countP (Event.isAccepted .limit) =
      events.count (.request "GET" Service.Endpoint.queryTemplate 200)) :
    (Ledger.mk events).Settled :=
  ⟨(total_eq_countP _ _).trans refused, (total_eq_countP _ _).trans accepted⟩

/-- A ledger stays settled with events that are. -/
theorem Settled.record {ledger : Ledger} {events : List Event} (settled : ledger.Settled)
    (more : (Ledger.mk events).Settled) : (ledger.record events).Settled := by
  constructor
  · rw [total_record, count_record, settled.refused, more.refused]
  · rw [total_record, count_record, settled.accepted, more.accepted]

/-- No events are settled. -/
theorem settled_empty : Ledger.empty.Settled :=
  ⟨rfl, rfl⟩

end Ledger

/-! ## What is counted -/

/-- The events of an examination are balanced, whatever it found. -/
theorem Query.balanced_events (config : Config) (fault : Option (Parameter × Refusal.Reason)) :
    (Ledger.mk (events config fault)).Balanced := by
  unfold events countedIf
  split
  · cases fault with
    | none => exact .of_countP rfl rfl rfl fun _ _ => rfl
    | some fault =>
      obtain ⟨parameter, reason⟩ := fault
      cases parameter <;> exact .of_countP rfl rfl rfl fun _ _ => rfl
  · exact Ledger.balanced_empty

/-- The events of the examination of a query are balanced. -/
theorem Query.balanced_examine (config : Config) (resource : Resource) (query : Query) :
    (Ledger.mk (query.examine config resource).events).Balanced := by
  cases examine_cases config resource query with
  | refused parameter refusal isRefusal result counted =>
    rw [counted]
    exact balanced_events config _
  | accepted selection result counted =>
    rw [counted]
    exact balanced_events config _

namespace Service

variable {session : Session} {request : Request}

/-- The events of a request itself are balanced. -/
theorem balanced_requestEvents (config : Config) (request : Request) (status : Nat) :
    (Ledger.mk (Session.requestEvents config request status)).Balanced := by
  unfold Session.requestEvents
  split
  · refine .of_countP rfl rfl rfl fun method path => ?_
    simp [List.count_cons, List.countP_cons, Event.isRequest]
  · exact Ledger.balanced_empty

/-- A step counts balanced events, unless it examines a limit alone. -/
theorem ledger_of_run (session : Session) {step : Step} (whole : ∀ raw, step ≠ .parseLimit raw) :
    ∃ events, (session.run step).2.ledger = session.ledger.record events ∧
      (Ledger.mk events).Balanced := by
  obtain ⟨events, counted, recorded⟩ := session.counted_of_run step
  refine ⟨events, recorded, ?_⟩
  cases counted with
  | nothing => exact Ledger.balanced_empty
  | limit raw => exact absurd rfl (whole raw)
  | query name query resource => exact Query.balanced_examine _ _ _
  | apart request status => exact balanced_requestEvents _ _ _
  | examined resource status =>
    exact (Query.balanced_examine _ _ _).record (balanced_requestEvents _ _ _)

/-! ## Requests and their statuses -/

/-- Why the service failed on a request. -/
def Answer.failure? : Answer → Option Failure
  | .response answer => answer.failure
  | _ => none

/-- A request that is no query, or is answered with neither a refusal nor a selection, is
settled. -/
theorem settled_requestEvents {config : Config} {status : Nat}
    (other : Session.label request ≠ Endpoint.queryTemplate ∨ status ≠ 400 ∧ status ≠ 200) :
    (Ledger.mk (Session.requestEvents config request status)).Settled := by
  unfold Session.requestEvents
  split
  · have absent : ∀ answered, answered = 400 ∨ answered = 200 →
        Event.request "GET" Endpoint.queryTemplate answered ∉
          [.request request.method (Session.label request) status,
            .timing request.method (Session.label request)] := by
      intro answered isAnswered member
      simp only [List.mem_cons, Event.request.injEq, List.not_mem_nil, reduceCtorEq, or_false]
        at member
      obtain ⟨-, label, same⟩ := member
      rcases other with noQuery | ⟨noRefusal, noSelection⟩
      · exact noQuery label.symm
      · omega
    exact .of_countP (List.count_eq_zero.2 (absent 400 (.inl rfl))).symm
      (List.count_eq_zero.2 (absent 200 (.inr rfl))).symm
  · exact Ledger.settled_empty

/-- The events of a query and of its request are settled if the status tells whether the query was
refused. -/
theorem settled_of_query {config : Config} {name : Text} (get : request.isGet = true)
    (matched : Endpoint.ofPath? request.path = some (.query name))
    (fault : Option (Parameter × Refusal.Reason)) :
    (Ledger.mk (Query.events config fault ++
      Session.requestEvents config request (if fault.isSome then 400 else 200))).Settled := by
  have label := label_eq_queryTemplate_iff.2 ⟨get, name, matched⟩
  have method : request.method = "GET" := by simpa [Request.isGet] using get
  rw [Session.requestEvents, isCounted_of_query matched, label, method]
  unfold Query.events Query.countedIf
  cases config.metricsEnabled with
  | false => exact Ledger.settled_empty
  | true =>
    cases fault with
    | none => exact .of_countP rfl rfl
    | some fault =>
      obtain ⟨parameter, reason⟩ := fault
      cases parameter <;> exact .of_countP rfl rfl

/-- A request that is no query is settled. -/
theorem ledger_of_other (session : Session) {request : Request}
    (other : Session.label request ≠ Endpoint.queryTemplate) :
    ∃ events, (session.serve request).2.ledger = session.ledger.record events ∧
      (Ledger.mk events).Settled := by
  have uncounted : (session.handle request).events = [] := by
    cases session.handle_cases request with
    | apart kept uncounted | looked registry inUse kept uncounted => exact uncounted
    | examined registry name resource get matched =>
      exact absurd (label_eq_queryTemplate_iff.2 ⟨get, name, matched⟩) other
  refine ⟨_, rfl, ?_⟩
  rw [uncounted, List.nil_append]
  exact settled_requestEvents (.inl other)

/-- A query whose answer is reported is settled. -/
theorem ledger_of_query (session : Session) {request : Request} {name : Text}
    (keyed : session.Keyed) (encodable : request.IsEncodable) (get : request.isGet = true)
    (matched : Endpoint.ofPath? request.path = some (.query name))
    (reported : (session.serve request).1.failure ≠ some .unencodableDetail) :
    ∃ events, (session.serve request).2.ledger = session.ledger.record events ∧
      (Ledger.mk events).Settled := by
  cases inUse : session.registry? (.request request) with
  | error fault =>
    have served := Session.serve_of_fault get matched inUse
    exact ⟨_, by rw [served], settled_requestEvents (.inr (by simp))⟩
  | ok registry =>
    cases found : registry.find? name with
    | none =>
      have served := Session.serve_of_unknown get matched inUse found
      exact ⟨_, by rw [served], settled_requestEvents (.inr (by simp))⟩
    | some resource =>
      have served := Session.serve_of_resource get matched inUse found
      have answered := congrArg Prod.fst served
      rw [answered] at reported
      refine ⟨_, by rw [served], ?_⟩
      have named := isEncodable_of_find? (keyed.of_inUse inUse) encodable matched found
      rw [Session.events_of_answerQuery]
      cases Query.examine_cases session.config resource request.query with
      | refused parameter refusal isRefusal result counted =>
        simp only [Session.answerQuery_of_refused result] at reported ⊢
        cases sendable : refusal.texts.all Text.isEncodable with
        | true =>
          rw [counted, sent_of_refused.1 sendable]
          exact settled_of_query get matched (some (parameter, refusal.reason))
        | false =>
          rw [sent_of_refused.2 sendable] at reported
          exact absurd rfl reported
      | accepted selection result counted =>
        obtain ⟨answer, -, sendable, isAnswer⟩ :=
          Session.answerQuery_of_accepted encodable named result
        rw [counted, isAnswer, sent_of_answer sendable]
        exact settled_of_query get matched none

/-- A step that comes as a request, and whose answer is reported, is settled. -/
theorem settled_run {session : Session} {step : Step} (keyed : session.Keyed)
    (settled : session.ledger.Settled) (whole : ∀ raw, step ≠ .parseLimit raw)
    (requested : ∀ name query, step ≠ .listQuery name query)
    (encodable : ∀ request, step = .request request → request.IsEncodable)
    (reported : (session.run step).1.failure? ≠ some .unencodableDetail) :
    (session.run step).2.ledger.Settled := by
  cases step with
  | parseLimit raw => exact absurd rfl (whole raw)
  | listQuery name query => exact absurd rfl (requested name query)
  | request request =>
    have served : ∃ events, (session.serve request).2.ledger = session.ledger.record events ∧
        (Ledger.mk events).Settled := by
      by_cases label : Session.label request = Endpoint.queryTemplate
      · obtain ⟨get, name, matched⟩ := label_eq_queryTemplate_iff.1 label
        exact ledger_of_query session keyed (encodable request rfl) get matched reported
      · exact ledger_of_other session label
    obtain ⟨events, recorded, more⟩ := served
    have settledAfter : (session.serve request).2.ledger.Settled := by
      rw [recorded]
      exact settled.record more
    exact settledAfter
  | _ =>
    rw [session.ledger_of_quiet rfl]
    exact settled

/-- Steps that come as requests, and whose answers are reported, are settled. -/
theorem settled_after {session : Session} {steps : List Step} (keyed : session.Keyed)
    (settled : session.ledger.Settled) (whole : ∀ raw, .parseLimit raw ∉ steps)
    (requested : ∀ name query, .listQuery name query ∉ steps)
    (encodable : ∀ request, .request request ∈ steps → request.IsEncodable)
    (reported : ∀ answer ∈ session.runAll steps, answer.failure? ≠ some .unencodableDetail) :
    (session.after steps).ledger.Settled := by
  induction steps generalizing session with
  | nil => exact settled
  | cons step steps ih =>
    have behind : ∀ {later : Step}, later ∈ steps → later ∈ step :: steps :=
      List.mem_cons_of_mem step
    obtain ⟨first, others⟩ := List.forall_mem_cons.1 reported
    have settledFirst : (session.run step).2.ledger.Settled := by
      refine settled_run keyed settled ?_ ?_ ?_ first
      · exact fun raw same => whole raw (same ▸ List.mem_cons_self)
      · exact fun name query same => requested name query (same ▸ List.mem_cons_self)
      · exact fun request same => encodable request (same ▸ List.mem_cons_self)
    refine ih (keyed.run step) settledFirst ?_ ?_ ?_ others
    · exact fun raw member => whole raw (behind member)
    · exact fun name query member => requested name query (behind member)
    · exact fun request member => encodable request (behind member)

/-- After any steps of which none examines a limit alone, the sums of the counters agree. If the
queries come as requests, and every refusal could be reported, they also agree with the statuses of
the answers. -/
theorem counters_agree (process : Process) (environment : Environment) (steps : List Step)
    (whole : ∀ raw, .parseLimit raw ∉ steps) :
    ((Session.initial process environment).after steps).ledger.Balanced ∧
    ((∀ name query, .listQuery name query ∉ steps) →
      (∀ request, .request request ∈ steps → request.IsEncodable) →
      (∀ answer ∈ (Session.initial process environment).runAll steps,
        answer.failure? ≠ some .unencodableDetail) →
      ((Session.initial process environment).after steps).ledger.Settled) := by
  constructor
  · refine Session.after_induction (·.ledger.Balanced) steps Ledger.balanced_empty ?_
    intro session balanced step member
    obtain ⟨events, recorded, more⟩ := ledger_of_run session fun raw same =>
      whole raw (same ▸ member)
    rw [recorded]
    exact balanced.record more
  · intro requested encodable reported
    have keyed : (Session.initial process environment).Keyed := fun _ kept => by
      simp [Session.initial] at kept
    exact settled_after keyed Ledger.settled_empty whole requested encodable reported

/-- A query that is accepted, one that is refused, one on no resource and, with metrics switched
off, one more leave counters that agree. -/
theorem counters_agree_switched :
    let accepted : Request := ⟨"GET", "/resources/users/query", [("sort", "id asc")], none, "fresh"⟩
    let refused : Request := ⟨"GET", "/resources/users/query", [("limit", "x")], none, "fresh"⟩
    let unknown : Request := ⟨"GET", "/resources/nobody/query", [], none, "fresh"⟩
    let steps := [.request accepted, .request refused, .request unknown,
      .setVariable "LISTQ_METRICS_ENABLED" "no", .request refused]
    (Session.after Session.start steps).ledger.Balanced ∧
      (Session.after Session.start steps).ledger.Settled := by
  intro accepted refused unknown steps
  obtain ⟨balanced, settled⟩ := counters_agree .standard .empty steps (by simp [steps])
  refine ⟨balanced, settled (by simp [steps]) ?_ ?_⟩
  · intro request member
    simp only [steps, List.mem_cons, Step.request.injEq, reduceCtorEq, List.not_mem_nil, or_false,
      false_or] at member
    rcases member with rfl | rfl | rfl | rfl <;> exact ⟨by decide, by decide, by simp, by decide⟩
  · decide +kernel

/-- A refusal that is not reported is counted, but no request with the status of a refusal is. -/
theorem refusal_uncounted :
    let steps := [.setVariable "LISTQ_RESOURCE_COLUMNS" halfPairColumns, .request halfPairRequest]
    (Session.after Session.start steps).ledger.total Event.isRefusal = 1 ∧
      (Session.after Session.start steps).ledger.count
        (.request "GET" Endpoint.queryTemplate 400) = 0 := by
  decide +kernel

end Service

end ListQuery
