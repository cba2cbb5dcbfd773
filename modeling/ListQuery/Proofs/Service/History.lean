import ListQuery.Proofs.Service.Query
import ListQuery.Proofs.Settings

/-!
# Histories of sessions

Which registry a session uses depends on what happened in it. It is the one that was built at the
first use that succeeded since the session began or the registry was last dropped, from the columns
configured at that time (`FirstUse`). Until then every use builds anew (`Waiting`). All other
settings are those of the environment at the step itself. `follows_history` says so for every step
of every session.
-/

namespace ListQuery.Service

/-! ## What happened -/

/-- Whether a step looks up resources: it asks for some, or requests a list of them or a query on
one. -/
def Step.looksUp : Step → Bool
  | registry _ | listQuery .. => true
  | request asked =>
    asked.isGet &&
      match Endpoint.ofPath? asked.path with
      | some .resources | some (.query _) => true
      | _ => false
  | _ => false

/-- The environment after a step. -/
def Step.environment (environment : Environment) : Step → Environment
  | setVariable name value => (environment.store name value).toOption.getD environment
  | unsetVariable name => environment.unset name
  | _ => environment

/-- The environment after some steps. -/
def environmentAfter (environment : Environment) (steps : List Step) : Environment :=
  steps.foldl Step.environment environment

/-- The text that configures the resources after some steps. -/
def columnsAfter (process : Process) (environment : Environment) (steps : List Step) : Text :=
  ((environmentAfter environment steps).value? .resourceColumns).getD
    process.settings.resourceColumns

/-- The registry that a use builds after some steps, from the columns that are configured then. -/
def builtAfter (process : Process) (environment : Environment) (steps : List Step) (use : Step) :
    Except Json.Fault Registry :=
  (Settings.overridesOfText (process.room use) (columnsAfter process environment steps)).map
    .ofOverrides

/-- Some of the steps were followed by a use of the registry, which was not dropped since. -/
def UsedAfter (before : List Step) (use : Step) (steps : List Step) : Prop :=
  ∃ later, steps = before ++ use :: later ∧ use.looksUp = true ∧ .resetRegistry ∉ later

/-- No use has succeeded since the registry was dropped. -/
def Waiting (process : Process) (environment : Environment) (steps : List Step) : Prop :=
  ∀ before use, UsedAfter before use steps →
    ∃ fault, builtAfter process environment before use = .error fault

/-- A registry was built at the first use that succeeded since the registry was dropped. -/
def FirstUse (process : Process) (environment : Environment) (steps : List Step)
    (registry : Registry) : Prop :=
  ∃ before use, UsedAfter before use steps ∧ Waiting process environment before ∧
    builtAfter process environment before use = .ok registry

variable {process : Process} {environment : Environment} {steps before : List Step}
  {step use : Step} {registry : Registry}

/-- One step more is a use, or keeps the uses before it unless it drops the registry. -/
theorem usedAfter_concat_iff : UsedAfter before use (steps ++ [step]) ↔
    (before = steps ∧ use = step ∧ step.looksUp = true) ∨
      (step ≠ .resetRegistry ∧ UsedAfter before use steps) := by
  constructor
  · rintro ⟨later, split, looksUp, kept⟩
    rcases List.eq_nil_or_concat later with rfl | ⟨later, last, rfl⟩
    · obtain ⟨rfl, same⟩ := List.append_inj' split rfl
      cases same
      exact .inl ⟨rfl, rfl, looksUp⟩
    · rw [List.concat_eq_append] at split kept
      rw [← List.cons_append, ← List.append_assoc] at split
      obtain ⟨front, same⟩ := List.append_inj' split rfl
      cases same
      refine .inr ⟨?_, later, front, looksUp, fun dropped => ?_⟩
      · rintro rfl
        exact kept (by simp)
      · exact kept (List.mem_append_left _ dropped)
  · rintro (⟨rfl, rfl, looksUp⟩ | ⟨other, later, rfl, looksUp, kept⟩)
    · exact ⟨[], rfl, looksUp, List.not_mem_nil⟩
    · refine ⟨later ++ [step], by simp, looksUp, ?_⟩
      rw [List.mem_append, List.mem_singleton]
      exact not_or.2 ⟨kept, Ne.symm other⟩

/-- Nothing was used before the first step. -/
theorem not_usedAfter_nil : ¬ UsedAfter before use [] := by
  rintro ⟨later, split, -⟩
  simp at split

/-- Of two uses since the registry was dropped one came before the other. -/
theorem UsedAfter.trichotomy {other : List Step} {otherUse : Step}
    (used : UsedAfter before use steps) (usedToo : UsedAfter other otherUse steps) :
    (before = other ∧ use = otherUse) ∨ UsedAfter before use other ∨
      UsedAfter other otherUse before := by
  induction steps using List.reverseRecOn with
  | nil => exact absurd used not_usedAfter_nil
  | append_singleton steps step ih =>
    rcases usedAfter_concat_iff.1 used with ⟨rfl, rfl, -⟩ | ⟨-, earlier⟩ <;>
      rcases usedAfter_concat_iff.1 usedToo with ⟨rfl, rfl, -⟩ | ⟨-, earlierToo⟩
    · exact .inl ⟨rfl, rfl⟩
    · exact .inr (.inr earlierToo)
    · exact .inr (.inl earlier)
    · exact ih earlier earlierToo

/-- A use that succeeded ends the waiting. -/
theorem FirstUse.not_waiting (first : FirstUse process environment steps registry) :
    ¬ Waiting process environment steps := by
  obtain ⟨before, use, used, -, built⟩ := first
  intro waiting
  obtain ⟨fault, failed⟩ := waiting before use used
  cases built.symm.trans failed

/-- There is one first use. -/
theorem FirstUse.unique {other : Registry} (first : FirstUse process environment steps registry)
    (firstToo : FirstUse process environment steps other) : registry = other := by
  obtain ⟨before, use, used, waiting, built⟩ := first
  obtain ⟨before', use', usedToo, waitingToo, builtToo⟩ := firstToo
  rcases used.trichotomy usedToo with ⟨rfl, rfl⟩ | earlier | later
  · exact Except.ok.inj (built.symm.trans builtToo)
  · exact absurd waitingToo (FirstUse.not_waiting ⟨before, use, earlier, waiting, built⟩)
  · exact absurd waiting (FirstUse.not_waiting ⟨before', use', later, waitingToo, builtToo⟩)

/-- A step that does not drop the registry keeps the first use. -/
theorem FirstUse.concat (first : FirstUse process environment steps registry)
    (kept : step ≠ .resetRegistry) :
    FirstUse process environment (steps ++ [step]) registry := by
  obtain ⟨before, use, used, waiting, built⟩ := first
  exact ⟨before, use, usedAfter_concat_iff.2 (.inr ⟨kept, used⟩), waiting, built⟩

/-- Steps that do not drop the registry keep the first use. -/
theorem FirstUse.append {later : List Step} (first : FirstUse process environment steps registry)
    (kept : .resetRegistry ∉ later) :
    FirstUse process environment (steps ++ later) registry := by
  obtain ⟨before, use, ⟨between, rfl, looksUp, none⟩, waiting, built⟩ := first
  refine ⟨before, use, ⟨between ++ later, by simp, looksUp, ?_⟩, waiting, built⟩
  rw [List.mem_append]
  exact not_or.2 ⟨none, kept⟩

/-- A use that succeeds while there was none before is the first. -/
theorem Waiting.firstUse (waiting : Waiting process environment steps)
    (looksUp : step.looksUp = true)
    (built : builtAfter process environment steps step = .ok registry) :
    FirstUse process environment (steps ++ [step]) registry :=
  ⟨steps, step, usedAfter_concat_iff.2 (.inl ⟨rfl, rfl, looksUp⟩), waiting, built⟩

/-- Waiting goes on with a step that does not use the registry, or fails to. -/
theorem Waiting.concat (waiting : Waiting process environment steps)
    (fails : step.looksUp = true →
      ∃ fault, builtAfter process environment steps step = .error fault) :
    Waiting process environment (steps ++ [step]) := by
  intro before use used
  rcases usedAfter_concat_iff.1 used with ⟨rfl, rfl, looksUp⟩ | ⟨-, used⟩
  · exact fails looksUp
  · exact waiting before use used

/-- Dropping the registry starts the waiting. -/
theorem waiting_concat_resetRegistry :
    Waiting process environment (steps ++ [.resetRegistry]) := by
  intro before use used
  rcases usedAfter_concat_iff.1 used with ⟨-, -, looksUp⟩ | ⟨other, -⟩
  · cases looksUp
  · exact absurd rfl other

/-! ## What a step does -/

/-- What a step that looks up resources answers and counts under given settings if it looks into a
given registry. -/
inductive Shows (registry : Registry) (config : Config) : Step → Answer → List Event → Prop where
  | resources (names : List Text) :
      Shows registry config (.registry names)
        (.registry registry.names (names.map registry.find?)) []
  | missing {name : Text} {query : Query} (unknown : registry.find? name = none) :
      Shows registry config (.listQuery name query) (.listQuery none []) []
  | examined {name : Text} {query : Query} {resource : Resource}
      (found : registry.find? name = some resource) :
      Shows registry config (.listQuery name query)
        (.listQuery (some (query.examine config resource).result)
          (query.examine config resource).records)
        (query.examine config resource).events
  | listed {asked : Request} {response : Response} (get : asked.isGet = true)
      (matched : Endpoint.ofPath? asked.path = some .resources)
      (sent : response = (Response.plain 200 (.resources registry.resources) asked.id).sent) :
      Shows registry config (.request asked) (.response response)
        (Session.requestEvents config asked response.status)
  | unanswered {asked : Request} {name : Text} (get : asked.isGet = true)
      (matched : Endpoint.ofPath? asked.path = some (.query name))
      (unknown : registry.find? name = none) :
      Shows registry config (.request asked)
        (.response (.plain 404 (.detail "Unknown resource") asked.id))
        (Session.requestEvents config asked 404)
  | answered {asked : Request} {name : Text} {resource : Resource} {response : Response}
      (get : asked.isGet = true) (matched : Endpoint.ofPath? asked.path = some (.query name))
      (found : registry.find? name = some resource)
      (sent : response = (Session.answerQuery config resource asked).1.sent) :
      Shows registry config (.request asked) (.response response)
        ((asked.query.examine config resource).events ++
          Session.requestEvents config asked response.status)

/-- What a step that looks up resources answers if the registry cannot be built. -/
def Step.failure (fault : Json.Fault) : Step → Answer
  | request _ => .response (.failed (.configuration fault) [])
  | _ => .failed fault

namespace Session

variable {session : Session}

/-- A request to look up resources is one to list them or a query on one. -/
theorem endpoint_of_looksUp {asked : Request} (looksUp : (Step.request asked).looksUp = true) :
    asked.isGet = true ∧ (Endpoint.ofPath? asked.path = some .resources ∨
      ∃ name, Endpoint.ofPath? asked.path = some (.query name)) := by
  simp only [Step.looksUp, Bool.and_eq_true] at looksUp
  obtain ⟨get, looksUp⟩ := looksUp
  refine ⟨get, ?_⟩
  split at looksUp
  · exact .inl ‹_›
  · exact .inr ⟨_, ‹_›⟩
  · cases looksUp

/-- A step that looks up resources looks into the registry in use, which is kept. -/
theorem run_of_inUse (looksUp : step.looksUp = true)
    (inUse : session.registry? step = .ok registry) :
    ∃ answer events, Shows registry session.config step answer events ∧
      session.run step = (answer, ⟨session.process, session.environment, some registry,
        session.ledger.record events⟩) := by
  cases step with
  | registry names =>
    refine ⟨_, [], .resources names, ?_⟩
    simp [run, inUse, Ledger.record]
  | listQuery name query =>
    cases found : registry.find? name with
    | none =>
      refine ⟨_, [], .missing found, ?_⟩
      simp [run, listQuery, inUse, found, Ledger.record]
    | some resource =>
      refine ⟨_, _, .examined found, ?_⟩
      simp [run, listQuery, inUse, found]
  | request asked =>
    obtain ⟨get, matched | ⟨name, matched⟩⟩ := endpoint_of_looksUp looksUp
    · refine ⟨_, _, .listed get matched rfl, ?_⟩
      simp [run, serve, handle_of_isGet (by simp) get matched, answerEndpoint, inUse]
    · cases found : registry.find? name with
      | none =>
        refine ⟨_, _, .unanswered get matched found, ?_⟩
        simp [run, serve_of_unknown get matched inUse found]
      | some resource =>
        refine ⟨_, _, .answered get matched found rfl, ?_⟩
        simp [run, serve_of_resource get matched inUse found, events_of_answerQuery]
  | _ => cases looksUp

/-- A step that looks up resources fails with the registry that it cannot build. -/
theorem run_of_fault {fault : Json.Fault} (looksUp : step.looksUp = true)
    (failed : session.registry? step = .error fault) :
    (session.run step).1 = step.failure fault ∧
      (session.run step).2.registry = session.registry := by
  cases step with
  | registry names => simp [run, failed, Step.failure]
  | listQuery name query => simp [run, listQuery, failed, Step.failure]
  | request asked =>
    have sent : (Response.failed (.configuration fault) []).sent =
      .failed (.configuration fault) [] := rfl
    obtain ⟨get, matched | ⟨name, matched⟩⟩ := endpoint_of_looksUp looksUp <;>
      simp [run, serve, handle_of_isGet (by simp) get matched, answerEndpoint, failed, sent,
        Step.failure]
  | _ => cases looksUp

/-- A step that does not look up resources leaves the registry alone unless it drops it. -/
theorem registry_of_aside (aside : step.looksUp = false) (kept : step ≠ .resetRegistry) :
    (session.run step).2.registry = session.registry := by
  cases step with
  | setVariable name value =>
    unfold run
    dsimp only
    split <;> rfl
  | resetRegistry => exact absurd rfl kept
  | registry | listQuery => cases aside
  | request asked =>
    show (session.handle asked).registry = session.registry
    simp only [Step.looksUp] at aside
    unfold handle
    split
    · rename_i endpoint matched
      split
      · rename_i get
        cases endpoint with
        | health => rfl
        | metrics =>
          unfold answerEndpoint
          dsimp only
          split <;> rfl
        | page => rfl
        | resources | query =>
          rw [Endpoint.contains_methods (by simp)] at get
          simp [get, matched] at aside
      · rfl
    · split <;> rfl
  | _ => rfl

/-- A step changes the environment as it says. -/
theorem environment_of_run (session : Session) (step : Step) :
    (session.run step).2.environment = step.environment session.environment := by
  cases step with
  | setVariable name value =>
    unfold run Step.environment
    dsimp only
    cases session.environment.store name value <;> rfl
  | registry names =>
    unfold run
    dsimp only
    split <;> rfl
  | listQuery name query =>
    unfold run listQuery
    dsimp only
    split
    · rfl
    · split <;> rfl
  | _ => rfl

/-- The registry that a session keeps is that of the first use, and while there is none it keeps
no registry. -/
inductive Kept (process : Process) (environment : Environment) (steps : List Step) :
    Option Registry → Prop where
  | built {registry : Registry} (first : FirstUse process environment steps registry) :
      Kept process environment steps (some registry)
  | waiting (waiting : Waiting process environment steps) : Kept process environment steps none

/-- A session is in a state that some steps lead to, as far as looking up resources goes. -/
structure Reached (process : Process) (environment : Environment) (steps : List Step)
    (session : Session) : Prop where
  same : session.process = process
  now : session.environment = environmentAfter environment steps
  kept : Kept process environment steps session.registry

/-- The settings in effect are those of the environment that the steps lead to. -/
theorem Reached.config (reached : Reached process environment steps session) :
    session.config = process.settings.inEffect (environmentAfter environment steps) := by
  rw [Session.config, reached.same, reached.now]

/-- The registry in use, or the fault of building it, is what the history says with a use more. -/
theorem Reached.lookUp (reached : Reached process environment steps session)
    (looksUp : step.looksUp = true) :
    (∃ registry, session.registry? step = .ok registry ∧
      FirstUse process environment (steps ++ [step]) registry) ∨
    ∃ fault, session.registry? step = .error fault ∧ session.registry = none ∧
      builtAfter process environment steps step = .error fault ∧
        Waiting process environment (steps ++ [step]) := by
  have other : step ≠ .resetRegistry := by
    rintro rfl
    cases looksUp
  have kept := reached.kept
  generalize isKept : session.registry = registry at kept
  cases kept with
  | built first =>
    exact .inl ⟨_, by simp only [isKept, registry?], first.concat other⟩
  | waiting waiting =>
    have building : session.registry? step = builtAfter process environment steps step := by
      simp only [isKept, reached.same, reached.now, registry?]
      rfl
    rw [building]
    cases built : builtAfter process environment steps step with
    | ok registry => exact .inl ⟨registry, rfl, waiting.firstUse looksUp built⟩
    | error fault =>
      exact .inr ⟨fault, rfl, rfl, rfl, waiting.concat fun _ => ⟨fault, built⟩⟩

/-- If there is a first use, the registry in use is that of it. -/
theorem Reached.registry?_of_firstUse (reached : Reached process environment steps session)
    (looksUp : step.looksUp = true)
    (first : FirstUse process environment (steps ++ [step]) registry) :
    session.registry? step = .ok registry := by
  rcases reached.lookUp looksUp with ⟨other, inUse, firstToo⟩ | ⟨_, _, _, _, waiting⟩
  · exact first.unique firstToo ▸ inUse
  · exact absurd waiting first.not_waiting

/-- One step more keeps the registry that the history says. -/
theorem Reached.kept_run (reached : Reached process environment steps session) (step : Step) :
    Kept process environment (steps ++ [step]) (session.run step).2.registry := by
  cases looksUp : step.looksUp with
  | false =>
    by_cases dropped : step = .resetRegistry
    · subst dropped
      exact .waiting waiting_concat_resetRegistry
    · rw [registry_of_aside looksUp dropped]
      have kept := reached.kept
      generalize session.registry = registry at kept
      cases kept with
      | built first => exact .built (first.concat dropped)
      | waiting waiting => exact .waiting (waiting.concat (by simp [looksUp]))
  | true =>
    rcases reached.lookUp looksUp with ⟨registry, inUse, first⟩ |
      ⟨fault, failed, none, -, waiting⟩
    · obtain ⟨answer, events, -, ran⟩ := run_of_inUse looksUp inUse
      rw [ran]
      exact .built first
    · rw [(run_of_fault looksUp failed).2, none]
      exact .waiting waiting

/-- One step more leads on. -/
theorem Reached.run (reached : Reached process environment steps session) (step : Step) :
    Reached process environment (steps ++ [step]) (session.run step).2 where
  same := (process_of_run session step).trans reached.same
  now := by
    rw [environment_of_run, reached.now, environmentAfter, environmentAfter, List.foldl_append]
    rfl
  kept := reached.kept_run step

/-- Any steps lead to such a state. -/
theorem reached_after (process : Process) (environment : Environment) (steps : List Step) :
    Reached process environment steps ((initial process environment).after steps) := by
  induction steps using List.reverseRecOn with
  | nil =>
    exact ⟨rfl, rfl, .waiting fun before use used => absurd used not_usedAfter_nil⟩
  | append_singleton steps step ih =>
    have further := ih.run step
    rwa [after, List.foldl_append]

/-- No step counts anything while metrics are disabled. -/
theorem Counted.eq_nil {config : Config} {events : List Event}
    (counted : Counted config step events) (disabled : config.metricsEnabled = false) :
    events = [] := by
  have examination : ∀ (resource : Resource) (query : Query),
      (query.examine config resource).events = [] := by
    intro resource query
    cases Query.examine_cases config resource query with
    | refused parameter refusal isRefusal result counted | accepted selection result counted =>
      rw [counted, Query.events, Query.countedIf, disabled]
      rfl
  have itself : ∀ (asked : Request) (status : Nat), requestEvents config asked status = [] := by
    intro asked status
    simp [requestEvents, isCounted, disabled]
  cases counted with
  | nothing => rfl
  | limit raw => simp [Query.examineLimit, Examination.counted, disabled]
  | query name query resource => exact examination resource query
  | apart asked status => exact itself asked status
  | examined resource status => rw [examination, itself, List.nil_append]

/-- A session goes on as its history says. -/
structure FollowsHistory (process : Process) (environment : Environment) (steps : List Step)
    (session : Session) : Prop where
  /-- The settings in effect come from the environment at this point, and from the process for what
  is not set there. -/
  config : process.settings.InEffect (environmentAfter environment steps) session.config
  /-- A step that looks up resources looks into the registry of the first use. -/
  found : ∀ step registry, step.looksUp = true →
    FirstUse process environment (steps ++ [step]) registry →
    ∃ answer events, Shows registry session.config step answer events ∧
      session.run step = (answer, ⟨process, environmentAfter environment steps, some registry,
        session.ledger.record events⟩)
  /-- A step that looks up resources fails if no use has succeeded, this one included. -/
  failed : ∀ step, step.looksUp = true →
    (∀ registry, ¬ FirstUse process environment (steps ++ [step]) registry) →
      ∃ fault, builtAfter process environment steps step = .error fault ∧
        (session.run step).1 = step.failure fault ∧ (session.run step).2.registry = none
  /-- No other step fixes the registry or changes it, unless it drops it. -/
  aside : ∀ step, step.looksUp = false → step ≠ .resetRegistry →
    (session.run step).2.registry = session.registry
  /-- The first use stays the first until the registry is dropped. -/
  lasting : ∀ later registry, FirstUse process environment steps registry →
    .resetRegistry ∉ later → FirstUse process environment (steps ++ later) registry
  /-- A limit is examined under the settings in effect. -/
  limit : ∀ raw, (session.run (.parseLimit raw)).1 = .limit (Limit.parse session.config.limits raw)
  /-- Metrics are shown exactly while they are enabled. -/
  metrics : ∀ asked : Request, asked.isGet = true →
    Endpoint.ofPath? asked.path = some .metrics →
      (session.run (.request asked)).1 = .response
        (if session.config.metricsEnabled then
          (Response.plain 200 (.metrics session.ledger.lines) asked.id).sent
        else .plain 404 .empty asked.id)
  /-- Nothing is counted while metrics are disabled. -/
  silent : session.config.metricsEnabled = false →
    ∀ step, (session.run step).2.ledger = session.ledger

/-- Every session goes on as its history says. -/
theorem follows_history (process : Process) (environment : Environment) (steps : List Step) :
    FollowsHistory process environment steps ((initial process environment).after steps) := by
  have reached := reached_after process environment steps
  generalize (initial process environment).after steps = session at reached ⊢
  refine ⟨?_, fun step registry looksUp first => ?_, fun step looksUp none => ?_,
    fun step => registry_of_aside, fun later registry => FirstUse.append, fun raw => rfl,
    fun asked get matched => ?_, fun disabled step => ?_⟩
  · exact Settings.inEffect_iff.2 reached.config
  · obtain ⟨answer, events, shows, ran⟩ :=
      run_of_inUse looksUp (reached.registry?_of_firstUse looksUp first)
    rw [reached.same, reached.now] at ran
    exact ⟨answer, events, shows, ran⟩
  · rcases reached.lookUp looksUp with ⟨registry, -, first⟩ |
      ⟨fault, failed, empty, built, -⟩
    · exact absurd first (none registry)
    · obtain ⟨answered, unchanged⟩ := run_of_fault looksUp failed
      exact ⟨fault, built, answered, unchanged.trans empty⟩
  · have sent : (Response.plain 404 .empty asked.id).sent = .plain 404 .empty asked.id := rfl
    cases enabled : session.config.metricsEnabled <;>
      simp [run, serve, handle_of_isGet (by simp) get matched, answerEndpoint, enabled, sent]
  · obtain ⟨events, counted, recorded⟩ := counted_of_run session step
    rw [recorded, counted.eq_nil disabled, Ledger.record_nil]

/-- A configuration that comes after the first use is not in effect: its resource is not found. -/
theorem follows_history_configured_late :
    ((start.after [.registry [], .setVariable "LISTQ_RESOURCE_COLUMNS" halfPairColumns]).run
      (.registry ["b"])).1 = .registry Registry.defaults.names [none] := by
  have used : UsedAfter [] (.registry [])
      ([.registry [], .setVariable "LISTQ_RESOURCE_COLUMNS" halfPairColumns] ++
        [.registry ["b"]]) :=
    ⟨[.setVariable "LISTQ_RESOURCE_COLUMNS" halfPairColumns, .registry ["b"]], rfl, rfl, by simp⟩
  have waiting : Waiting .standard .empty [] := fun before use used =>
    absurd used not_usedAfter_nil
  obtain ⟨answer, events, shows, ran⟩ :=
    (follows_history .standard .empty
      [.registry [], .setVariable "LISTQ_RESOURCE_COLUMNS" halfPairColumns]).found
      (.registry ["b"]) .defaults rfl ⟨[], .registry [], used, waiting, rfl⟩
  have nowhere : Registry.defaults.find? "b" = none := by decide +kernel
  refine (congrArg Prod.fst ran).trans ?_
  cases shows
  simp [nowhere]

end Session

end ListQuery.Service
