import ListQuery.Proofs.Registry
import ListQuery.Proofs.Text.Encodable
import ListQuery.Service.Session

/-!
# Runs of sessions

What a handler and a step can do to the registry and the ledger (`handle_cases`, `registry_of_run`,
`counted_of_run`), and from it what holds after any steps: the resources are kept under their
names. The module also settles which requests are queries on a resource.
-/

namespace ListQuery.Service

open Text

/-! ## Paths of queries -/

namespace Endpoint

/-- An endpoint of the service itself answers one method. -/
theorem contains_methods {endpoint : Endpoint} (own : ∀ shown, endpoint ≠ .page shown)
    (request : Request) : endpoint.methods.contains request.method = request.isGet := by
  have one : Framework.operationMethods.contains request.method = request.isGet := by
    simp [Framework.operationMethods, Request.isGet]
  cases endpoint with
  | page shown => exact absurd rfl (own shown)
  | metrics | health | resources | query => exact one

/-- The path of a query has four segments, the first of which is empty. -/
theorem segments_of_query {path name : Text} (matched : ofPath? path = some (query name)) :
    pieces '/' (Framework.dropLineFeed path) = [[], "resources", name, "query"] := by
  unfold ofPath? ofSegments? at matched
  split at matched
  · split at matched
    · simp at matched
    · repeat' split at matched
      all_goals simp at matched
  · split at matched <;> simp at matched
  · rename_i root collection resource action segments
    split at matched
    · rename_i shape
      simp only [Bool.and_eq_true, decide_eq_true_eq] at shape
      obtain ⟨⟨⟨rfl, rfl⟩, -⟩, rfl⟩ := shape
      cases matched
      exact segments
    · simp at matched
  · simp at matched

/-- A text without its line feed is the start of it. -/
theorem dropLineFeed_isPrefix (text : Text) : Framework.dropLineFeed text <+: text := by
  unfold Framework.dropLineFeed
  split
  · exact List.dropLast_prefix text
  · exact List.prefix_rfl

/-- The name in the path of a query is a part of the path. -/
theorem subset_of_query {path name : Text} (matched : ofPath? path = some (query name)) :
    name ⊆ path := by
  have member : name ∈ pieces '/' (Framework.dropLineFeed path) := by
    simp [segments_of_query matched]
  exact fun c inside => (dropLineFeed_isPrefix path).subset (subset_of_mem_pieces member inside)

/-- The path of a query has three slashes. -/
theorem three_le_count_of_query {path name : Text} (matched : ofPath? path = some (query name)) :
    3 ≤ path.count (.scalar '/') := by
  have count := length_pieces '/' (Framework.dropLineFeed path)
  rw [segments_of_query matched] at count
  have kept := (dropLineFeed_isPrefix path).sublist.count_le (.scalar '/')
  simp at count
  omega

end Endpoint

/-- A slash of a path is kept in its URL, and no other character becomes one. -/
theorem count_pathChar (c : CodePoint) :
    ((Framework.Url.pathChar c).filter (! Framework.Url.isDropped ·)).count (.scalar '/') =
      if c = .scalar '/' then 1 else 0 := by
  by_cases slash : c = .scalar '/'
  · subst slash
    decide
  · rw [if_neg slash]
    apply List.count_eq_zero.2
    intro member
    have inChar := List.mem_of_mem_filter member
    unfold Framework.Url.pathChar at inChar
    split at inChar
    · exact absurd inChar (by decide)
    · split at inChar
      · exact absurd inChar (by decide)
      · exact slash (List.mem_singleton.1 inChar).symm

/-- Reading the path of a URL loses no slash. -/
theorem count_le_count_readPath (requested : Text) :
    requested.count (.scalar '/') ≤ (Framework.Url.readPath requested).count (.scalar '/') := by
  have kept : ∀ text : Text,
      ((text.flatMap Framework.Url.pathChar).filter (! Framework.Url.isDropped ·)).count
        (.scalar '/') = text.count (.scalar '/') := by
    intro text
    induction text with
    | nil => rfl
    | cons c rest ih =>
      rw [List.flatMap_cons, List.filter_append, List.count_append, ih, count_pathChar,
        List.count_cons]
      simp [Nat.add_comm]
  have rooted : requested.count (.scalar '/') ≤
      (Framework.Url.rooted requested).count (.scalar '/') := by
    unfold Framework.Url.rooted
    split
    · exact Nat.le_refl _
    · exact List.count_le_count_cons
  rw [Framework.Url.readPath, Framework.Url.path, kept]
  exact rooted

/-- The path of a query is not that of the collection of metrics. -/
theorem isCounted_of_query {config : Config} {request : Request} {name : Text}
    (matched : Endpoint.ofPath? request.path = some (.query name)) :
    Session.isCounted config request = config.metricsEnabled := by
  have slashes := Endpoint.three_le_count_of_query matched
  have kept := count_le_count_readPath request.path
  have other : Framework.Url.readPath request.path ≠ Endpoint.metrics.template := by
    intro same
    rw [same] at kept
    have one : (Endpoint.metrics.template).count (.scalar '/') = 1 := by decide
    omega
  simp [Session.isCounted, other]

/-- The label under which queries are counted. -/
def Endpoint.queryTemplate : Text := (Endpoint.query []).template

/-- Only queries have the template of queries. -/
theorem Endpoint.template_eq_queryTemplate_iff {endpoint : Endpoint} :
    endpoint.template = queryTemplate ↔ ∃ name, endpoint = .query name := by
  cases endpoint with
  | query name => exact iff_of_true rfl ⟨name, rfl⟩
  | page shown => exact iff_of_false (by cases shown <;> decide) (by simp)
  | metrics | health | resources => exact iff_of_false (by decide) (by simp)

/-- A request is counted as a query exactly if it is one. -/
theorem label_eq_queryTemplate_iff {request : Request} :
    Session.label request = Endpoint.queryTemplate ↔
      request.isGet = true ∧ ∃ name, Endpoint.ofPath? request.path = some (.query name) := by
  have unmatched : Endpoint.unmatched ≠ Endpoint.queryTemplate := by decide
  unfold Session.label
  cases matched : Endpoint.ofPath? request.path with
  | none => simp [unmatched]
  | some endpoint =>
    dsimp only
    simp only [Option.some.injEq, ← Endpoint.template_eq_queryTemplate_iff]
    cases endpoint with
    | page shown =>
      have other : (Endpoint.page shown).template ≠ Endpoint.queryTemplate := by
        cases shown <;> decide
      split <;> simp [other, unmatched]
    | metrics | health | resources | query name =>
      rw [Endpoint.contains_methods (by simp)]
      cases request.isGet <;> simp [unmatched]

/-! ## Steps -/

/-- Whether a step may count something: it examines a parameter or serves a request. -/
def Step.counts : Step → Bool
  | parseLimit _ | listQuery .. | request _ => true
  | _ => false

namespace Session

/-- The state after some steps. -/
def after (session : Session) (steps : List Step) : Session :=
  steps.foldl (fun session step => (session.run step).2) session

/-- A registry that is kept has every resource under its name. -/
def Keyed (session : Session) : Prop :=
  ∀ registry, session.registry = some registry → registry.Keyed

/-- The registry in use has every resource under its name. -/
theorem Keyed.of_inUse {session : Session} {step : Step} {registry : Registry}
    (keyed : session.Keyed) (inUse : session.registry? step = .ok registry) : registry.Keyed := by
  unfold registry? at inUse
  split at inUse
  · rename_i kept
    cases inUse
    exact keyed _ kept
  · exact Settings.keyed_registry inUse

/-- The answer to a query counts what its examination counts. -/
theorem events_of_answerQuery (config : Config) (resource : Resource) (request : Request) :
    (answerQuery config resource request).2 = (request.query.examine config resource).events := by
  unfold answerQuery
  dsimp only
  split <;> rfl

/-- A request of the method that the endpoints of the service itself answer is answered by its
endpoint. -/
theorem handle_of_isGet {session : Session} {request : Request} {endpoint : Endpoint}
    (own : ∀ shown, endpoint ≠ .page shown) (get : request.isGet = true)
    (matched : Endpoint.ofPath? request.path = some endpoint) :
    session.handle request = session.answerEndpoint endpoint request := by
  simp only [handle, matched, (Endpoint.contains_methods own request).trans get, if_true]

/-- What a handler does: it leaves the registry alone, or it looks into the one in use, or it
examines a query on a resource of the one in use. Only an examination is counted. -/
inductive Handled (session : Session) (request : Request) (handling : Handling) : Prop where
  | apart (kept : handling.registry = session.registry) (uncounted : handling.events = [])
  | looked (registry : Registry) (inUse : session.registry? (.request request) = .ok registry)
      (kept : handling.registry = some registry) (uncounted : handling.events = [])
  | examined (registry : Registry) (name : Text) (resource : Resource)
      (get : request.isGet = true) (matched : Endpoint.ofPath? request.path = some (.query name))
      (inUse : session.registry? (.request request) = .ok registry)
      (kept : handling.registry = some registry)
      (counted : handling.events = (request.query.examine session.config resource).events)

/-- Every request is handled in one of these ways. -/
theorem handle_cases (session : Session) (request : Request) :
    Handled session request (session.handle request) := by
  unfold handle
  split
  · rename_i endpoint matched
    split
    · rename_i get
      cases endpoint with
      | health => exact .apart rfl rfl
      | metrics =>
        unfold answerEndpoint
        dsimp only
        split <;> exact .apart rfl rfl
      | resources =>
        unfold answerEndpoint
        dsimp only
        split
        · exact .apart rfl rfl
        · rename_i registry inUse
          exact .looked registry inUse rfl rfl
      | query name =>
        unfold answerEndpoint
        dsimp only
        split
        · exact .apart rfl rfl
        · rename_i registry inUse
          split
          · exact .looked registry inUse rfl rfl
          · rename_i resource found
            rw [Endpoint.contains_methods (by simp)] at get
            exact .examined registry name resource get matched inUse rfl
              (events_of_answerQuery session.config resource request)
      | page shown => exact .apart rfl rfl
    · exact .apart rfl rfl
  · split <;> exact .apart rfl rfl

/-- Every step keeps the registry, drops it, or keeps the one in use from then on. -/
theorem registry_of_run (session : Session) (step : Step) :
    (session.run step).2.registry = session.registry ∨ (session.run step).2.registry = none ∨
      ∃ registry, session.registry? step = .ok registry ∧
        (session.run step).2.registry = some registry := by
  cases step with
  | setVariable name value =>
    unfold run
    dsimp only
    split <;> exact .inl rfl
  | resetRegistry => exact .inr (.inl rfl)
  | registry names =>
    unfold run
    dsimp only
    split
    · exact .inl rfl
    · exact .inr (.inr ⟨_, ‹_›, rfl⟩)
  | listQuery name query =>
    unfold run listQuery
    dsimp only
    split
    · exact .inl rfl
    · split <;> exact .inr (.inr ⟨_, ‹_›, rfl⟩)
  | request request =>
    cases handle_cases session request with
    | apart kept => exact .inl kept
    | looked registry inUse kept => exact .inr (.inr ⟨registry, inUse, kept⟩)
    | examined registry name resource get matched inUse kept =>
      exact .inr (.inr ⟨registry, inUse, kept⟩)
  | _ => exact .inl rfl

/-- No step changes what the process fixed when it started. -/
@[simp] theorem process_of_run (session : Session) (step : Step) :
    (session.run step).2.process = session.process := by
  cases step with
  | setVariable name value =>
    unfold run
    dsimp only
    split <;> rfl
  | registry names =>
    unfold run
    dsimp only
    split <;> rfl
  | listQuery name query =>
    unfold run listQuery
    dsimp only
    split
    · rfl
    · split <;> rfl
  | _ => rfl

/-- A step that counts nothing leaves the ledger as it is. -/
theorem ledger_of_quiet (session : Session) {step : Step} (quiet : step.counts = false) :
    (session.run step).2.ledger = session.ledger := by
  cases step with
  | parseLimit | listQuery | request => simp [Step.counts] at quiet
  | setVariable name value =>
    unfold run
    dsimp only
    split <;> rfl
  | registry names =>
    unfold run
    dsimp only
    split <;> rfl
  | _ => rfl

/-- What a step can count under given settings: what an examination counts, and the request
itself. -/
inductive Counted (config : Config) : Step → List Event → Prop where
  | nothing {step : Step} : Counted config step []
  | limit (raw : Option Text) :
      Counted config (.parseLimit raw) (Query.examineLimit config raw).events
  | query (name : Text) (query : Query) (resource : Resource) :
      Counted config (.listQuery name query) (query.examine config resource).events
  | apart (request : Request) (status : Nat) :
      Counted config (.request request) (requestEvents config request status)
  | examined {request : Request} {name : Text} (resource : Resource) (status : Nat)
      (get : request.isGet = true)
      (matched : Endpoint.ofPath? request.path = some (.query name)) :
      Counted config (.request request)
        ((request.query.examine config resource).events ++ requestEvents config request status)

/-- Every step adds to the ledger what it counts under the settings in effect. -/
theorem counted_of_run (session : Session) (step : Step) :
    ∃ events, Counted session.config step events ∧
      (session.run step).2.ledger = session.ledger.record events := by
  cases counts : step.counts with
  | false =>
    refine ⟨[], .nothing, ?_⟩
    rw [ledger_of_quiet session counts, Ledger.record_nil]
  | true =>
    cases step with
    | parseLimit raw => exact ⟨_, .limit raw, rfl⟩
    | listQuery name query =>
      unfold run listQuery
      dsimp only
      split
      · exact ⟨[], .nothing, (Ledger.record_nil _).symm⟩
      · split
        · exact ⟨[], .nothing, (Ledger.record_nil _).symm⟩
        · exact ⟨_, .query name query _, rfl⟩
    | request request =>
      refine ⟨_, ?_, rfl⟩
      cases handle_cases session request with
      | apart kept uncounted | looked registry inUse kept uncounted =>
        rw [uncounted, List.nil_append]
        exact .apart request _
      | examined registry name resource get matched inUse kept counted =>
        rw [counted]
        exact .examined resource _ get matched
    | _ => cases counts

/-- After every step, the registry that is kept has every resource under its name. -/
theorem Keyed.run {session : Session} (keyed : session.Keyed) (step : Step) :
    (session.run step).2.Keyed := by
  intro registry kept
  rcases registry_of_run session step with same | dropped | ⟨inUse, isInUse, same⟩
  · exact keyed registry (same ▸ kept)
  · simp [dropped] at kept
  · cases same.symm.trans kept
    exact keyed.of_inUse isInUse

/-- What every step preserves holds after any steps. -/
theorem after_induction (holds : Session → Prop) {session : Session} (steps : List Step)
    (initial : holds session)
    (preserved : ∀ session, holds session → ∀ step ∈ steps, holds (session.run step).2) :
    holds (session.after steps) := by
  induction steps generalizing session with
  | nil => exact initial
  | cons step steps ih =>
    refine ih (preserved session initial step List.mem_cons_self) ?_
    exact fun session holds later member =>
      preserved session holds later (List.mem_cons_of_mem step member)

end Session

end ListQuery.Service
