import ListQuery.Proofs.Configuration
import ListQuery.Proofs.Json.Limits
import ListQuery.Proofs.Service.History

/-!
# A configuration is no reason to fail

The text that configures the resources comes from outside, and may be anything. It is made out,
whatever it holds, unless reading it exceeds a limit: what is not usable is left out. The service
then lists its resources and answers every query, provided that the names and columns in use have an
encoded form. A number of too many digits, or a bracket more than there is room for, is enough to
make it fail.
-/

namespace ListQuery

open Text

/-! ## Making out a configuration -/

namespace Settings

/-- A text cannot be made out as a configuration: it is not blank, and it exceeds a limit. -/
def IsFatal (room : Json.Room) (text : Text) : Prop :=
  trim text ≠ [] ∧ Json.Exceeds room (trim text)

/-- Overrides are what a text configures: none if it is no object in JSON, and otherwise the lists
of its usable members. -/
structure MakesOut (text : Text) (overrides : Dictionary Override) : Prop where
  unread : (∀ value, ¬ Json.Denotes (trim text) value) → overrides = []
  noObject : ∀ value, Json.Denotes (trim text) value → (∀ members, value ≠ .object members) →
    overrides = []
  names : ∀ name, (∃ override, overrides.get? name = some override) ↔
    ∃ member ∈ configured text, IsUsable member.2 ∧ Registry.normalize member.1 = name
  lists : ∀ before key value after, configured text = before ++ (key, value) :: after →
    IsUsable value →
    (∀ later ∈ after, IsUsable later.2 → Registry.normalize later.1 ≠ Registry.normalize key) →
      ∃ override, overrides.get? (Registry.normalize key) = some override ∧
        override.Describes value

variable {room : Json.Room} {text : Text} {overrides : Dictionary Override}

/-- Overrides that are read of a text are what it configures. -/
theorem makesOut_of_overridesOfText (read : overridesOfText room text = .ok overrides) :
    MakesOut text overrides := by
  have made := overridesOfText_eq_ok read
  have nothing : (∀ members, ¬ Json.Denotes (trim text) (.object members)) → overrides = [] := by
    intro noObject
    rw [made, configured_of_noObject noObject]
    rfl
  refine ⟨fun unread => nothing fun members => unread _, fun value denotes noObject => ?_,
    fun name => exists_override_iff made,
    fun before key value after split usable last =>
      exists_override_of_last made split usable last⟩
  refine nothing fun members other => noObject members ?_
  exact Except.ok.inj (denotes.symm.trans other)

/-- A text fails to be read exactly if it is fatal. -/
theorem isFatal_iff : IsFatal room text ↔ ∃ fault, overridesOfText room text = .error fault := by
  rw [IsFatal, Json.exceeds_iff, overridesOfText]
  by_cases blank : trim text = []
  · simp [blank]
  · rw [if_neg blank, and_iff_right blank]
    cases read : Json.ofText room (trim text) with
    | ok value => simp
    | error fault => cases fault <;> simp

/-- A text is made out exactly if it is not fatal. -/
theorem exists_makesOut_iff :
    (∃ overrides, overridesOfText room text = .ok overrides ∧ MakesOut text overrides) ↔
      ¬ IsFatal room text := by
  rw [isFatal_iff]
  cases read : overridesOfText room text with
  | ok overrides => simp [makesOut_of_overridesOfText read]
  | error fault => simp

end Settings

/-! ## What can be told of a registry -/

/-- The columns in the lists of an override. -/
def Override.columns (override : Override) : List Text :=
  override.fields.getD [] ++ override.filter.getD [] ++ override.sort.getD []

/-- Overrides can be told: their names and columns have an encoded form. -/
def CanBeTold (overrides : Dictionary Override) : Prop :=
  ∀ entry ∈ overrides, isEncodable entry.1 = true ∧ AllEncodable entry.2.columns

/-- The default resources can be told. -/
theorem Resource.isEncodable_defaults : ∀ resource ∈ Resource.defaults,
    isEncodable resource.name = true ∧ AllEncodable resource.columns := by
  unfold AllEncodable
  decide +kernel

/-- The texts of a resource without titles are its name and its columns. -/
theorem Resource.allEncodable_texts_iff {resource : Resource} (untitled : resource.titles = none) :
    AllEncodable resource.texts ↔
      isEncodable resource.name = true ∧ AllEncodable resource.columns := by
  simp [AllEncodable, texts, columns, untitled]

/-- The columns of a resource can be told if its texts can. -/
theorem Resource.allEncodable_columns {resource : Resource} (told : AllEncodable resource.texts) :
    AllEncodable resource.columns := by
  intro column member
  refine told column ?_
  simp only [columns, texts, List.append_assoc, List.mem_append] at member ⊢
  exact .inr member

/-- The columns of a default resource can be told, and a resource without columns has none. -/
theorem Resource.allEncodable_columns_standard (name : Text) :
    AllEncodable (standard name).columns := by
  unfold standard
  cases found : defaults.find? (·.name = name) with
  | none => exact fun column member => by cases member
  | some resource => exact (isEncodable_defaults resource (List.mem_of_find?_eq_some found)).2

/-- Where lists are laid over others that can be told, the result can be told exactly if these lists
can. -/
theorem Override.allEncodable_columns_apply_iff {override : Override} {resource : Resource}
    (base : AllEncodable resource.columns) :
    AllEncodable (override.apply resource).columns ↔ AllEncodable override.columns := by
  have list : ∀ {list : Option AllowList} {other : AllowList}, AllEncodable other →
      (AllEncodable (list.getD other) ↔ AllEncodable (list.getD [])) := by
    intro list other base
    cases list with
    | none => simpa [AllEncodable] using base
    | some columns => rfl
  simp only [AllEncodable, columns, Resource.columns, List.forall_mem_append] at base ⊢
  exact and_congr (and_congr (list base.1.1) (list base.1.2)) (list base.2)

/-- The resources of a registry that is made of such overrides can be told exactly if the overrides
can. -/
theorem Registry.allEncodable_ofOverrides_iff {members : Dictionary Json.Value}
    {overrides : Dictionary Override}
    (made : overrides = .ofPairs (members.filterMap Settings.namedOverride?)) :
    (∀ resource ∈ (ofOverrides overrides).resources, AllEncodable resource.texts) ↔
      CanBeTold overrides := by
  have distinct : overrides.keys.Nodup := made ▸ Dictionary.nodup_keys_ofPairs _
  have named : ∀ {name : Text} {resource : Resource},
      (ofOverrides overrides).entries.get? name = some resource → resource.name = name :=
    fun found => keyed_ofOverrides overrides _ (Dictionary.mem_of_get? found)
  constructor
  · intro told entry member
    have overridden := Dictionary.get?_of_mem distinct member
    have found : (ofOverrides overrides).entries.get? entry.1 =
        some (entry.2.apply (.standard entry.1)) := by
      rw [get?_ofOverrides distinct, overridden]
    obtain ⟨isName, columns⟩ := (Resource.allEncodable_texts_iff (titles_of_get? made found)).1
      (told _ (mem_resources_iff.2 ⟨_, found⟩))
    rw [named found] at isName
    exact ⟨isName, (Override.allEncodable_columns_apply_iff
      (Resource.allEncodable_columns_standard entry.1)).1 columns⟩
  · intro told resource listed
    obtain ⟨name, found⟩ := mem_resources_iff.1 listed
    have isNamed := named found
    rw [Resource.allEncodable_texts_iff (titles_of_get? made found)]
    rw [get?_ofOverrides distinct] at found
    cases overridden : overrides.get? name with
    | none =>
      rw [overridden] at found
      exact Resource.isEncodable_defaults resource (List.mem_of_find?_eq_some found)
    | some override =>
      rw [overridden] at found
      cases found
      obtain ⟨isName, columns⟩ := told _ (Dictionary.mem_of_get? overridden)
      rw [isNamed]
      exact ⟨isName, (Override.allEncodable_columns_apply_iff
        (Resource.allEncodable_columns_standard name)).2 columns⟩

end ListQuery

namespace ListQuery.Service

open Text

variable {request : Request}

/-! ## Answers -/

/-- The service did not fail on a request: it found something, refused it or found nothing. -/
structure Response.IsAnswer (response : Response) : Prop where
  status : response.status = 200 ∨ response.status = 400 ∨ response.status = 404
  failure : response.failure = none

/-- A body can be sent exactly if its texts have an encoded form. -/
theorem Body.failure?_eq_none_iff {body : Body} :
    body.failure? = none ↔ AllEncodable body.texts := by
  rw [AllEncodable, ← List.all_eq_true]
  unfold failure?
  by_cases encodable : body.texts.all isEncodable = true
  · rw [if_pos encodable]
    exact iff_of_true rfl encodable
  · rw [if_neg encodable]
    exact iff_of_false (by split <;> simp) encodable

/-- An answer is sent exactly if the texts of its body have an encoded form. -/
theorem Response.isAnswer_sent_iff {response : Response} (answers : response.IsAnswer) :
    response.sent.IsAnswer ↔ AllEncodable response.body.texts := by
  rw [← Body.failure?_eq_none_iff, sent]
  cases response.body.failure? with
  | none => simpa using answers
  | some failure =>
    refine iff_of_false (fun fails => ?_) (by simp)
    cases fails.failure

/-- A list of resources is sent exactly if they can be told. -/
theorem isAnswer_of_resources_iff {resources : List Resource} :
    (Response.plain 200 (.resources resources) request.id).sent.IsAnswer ↔
      ∀ resource ∈ resources, AllEncodable resource.texts := by
  rw [Response.isAnswer_sent_iff ⟨.inl rfl, rfl⟩]
  exact List.forall_mem_flatMap

/-- A query on a resource is answered exactly if its refusal, if there is one, can be told. -/
theorem isAnswer_of_query_iff {config : Config} {resource : Resource}
    (encodable : request.IsEncodable) (named : isEncodable resource.name = true) :
    (Session.answerQuery config resource request).1.sent.IsAnswer ↔
      ∀ refusal, (request.query.examine config resource).result = .error refusal →
        AllEncodable refusal.texts := by
  cases result : (request.query.examine config resource).result with
  | error refusal =>
    rw [Session.answerQuery_of_refused result, Response.isAnswer_sent_iff ⟨.inr (.inl rfl), rfl⟩]
    simp [Response.plain, Body.texts]
  | ok selection =>
    obtain ⟨answer, -, sendable, answered⟩ :=
      Session.answerQuery_of_accepted encodable named result
    rw [answered, sent_of_answer sendable]
    exact iff_of_true ⟨.inl rfl, rfl⟩ (by simp)

/-! ## Configurations in use -/

variable {process : Process} {environment : Environment} {steps : List Step} {registry : Registry}

/-- Overrides are in use after some steps: they were made out at the first use that succeeded. -/
def OverridesInUse (process : Process) (environment : Environment) (steps : List Step)
    (overrides : Dictionary Override) : Prop :=
  ∃ before use, UsedAfter before use steps ∧ Waiting process environment before ∧
    Settings.overridesOfText (process.room use) (columnsAfter process environment before) =
      .ok overrides

/-- The registry of the first use is that of the overrides in use. -/
theorem firstUse_iff : FirstUse process environment steps registry ↔
    ∃ overrides, OverridesInUse process environment steps overrides ∧
      Registry.ofOverrides overrides = registry := by
  constructor
  · rintro ⟨before, use, used, waiting, built⟩
    obtain ⟨overrides, read, rfl⟩ := map_eq_ok_iff.1 built
    exact ⟨overrides, ⟨before, use, used, waiting, read⟩, rfl⟩
  · rintro ⟨overrides, ⟨before, use, used, waiting, read⟩, rfl⟩
    exact ⟨before, use, used, waiting, map_eq_ok_iff.2 ⟨overrides, read, rfl⟩⟩

/-- The resources in use can be told exactly if the overrides can. -/
theorem OverridesInUse.canBeTold_iff {overrides : Dictionary Override}
    (inUse : OverridesInUse process environment steps overrides) :
    (∀ resource ∈ (Registry.ofOverrides overrides).resources, AllEncodable resource.texts) ↔
      CanBeTold overrides := by
  obtain ⟨before, use, -, -, read⟩ := inUse
  exact Registry.allEncodable_ofOverrides_iff (Settings.overridesOfText_eq_ok read)

/-- What becomes of a request to look up resources, as far as the configuration decides it. -/
structure Withstands (process : Process) (environment : Environment) (steps : List Step)
    (request : Request) (response : Response) : Prop where
  /-- If no use has succeeded, this one included, the service fails, and the text that is configured
  now is fatal. -/
  unbuilt :
    (∀ overrides, ¬ OverridesInUse process environment (steps ++ [.request request]) overrides) →
      response.status = 500 ∧ Settings.IsFatal (process.room (.request request))
        (columnsAfter process environment steps)
  /-- A list is sent exactly if the names and columns in use can be told. -/
  listed : ∀ overrides,
    OverridesInUse process environment (steps ++ [.request request]) overrides →
    Endpoint.ofPath? request.path = some .resources →
      (response.IsAnswer ↔ CanBeTold overrides)
  /-- A query is answered exactly if its refusal, if there is one, can be told. -/
  queried : ∀ overrides name,
    OverridesInUse process environment (steps ++ [.request request]) overrides →
    Endpoint.ofPath? request.path = some (.query name) →
      (response.IsAnswer ↔ ∀ resource,
        (Registry.ofOverrides overrides).find? name = some resource → ∀ refusal,
          (request.query.examine (process.settings.inEffect (environmentAfter environment steps))
            resource).result = .error refusal → AllEncodable refusal.texts)
  /-- If the names and columns in use can be told, the request is answered. -/
  told : ∀ overrides,
    OverridesInUse process environment (steps ++ [.request request]) overrides →
    CanBeTold overrides → response.IsAnswer

namespace Session

/-- A list of resources is answered from the registry in use. -/
theorem serve_of_resources {session : Session} (get : request.isGet = true)
    (matched : Endpoint.ofPath? request.path = some .resources)
    (inUse : session.registry? (.request request) = .ok registry) :
    (session.serve request).1 =
      (Response.plain 200 (.resources registry.resources) request.id).sent := by
  simp only [serve, handle_of_isGet (by simp) get matched, answerEndpoint, inUse]

/-- A query is answered exactly if its refusal, if there is one, can be told. -/
theorem isAnswer_serve_iff {session : Session} {name : Text} (encodable : request.IsEncodable)
    (get : request.isGet = true) (matched : Endpoint.ofPath? request.path = some (.query name))
    (inUse : session.registry? (.request request) = .ok registry) (keyed : registry.Keyed) :
    (session.serve request).1.IsAnswer ↔ ∀ resource, registry.find? name = some resource →
      ∀ refusal, (request.query.examine session.config resource).result = .error refusal →
        AllEncodable refusal.texts := by
  cases found : registry.find? name with
  | none =>
    rw [serve_of_unknown get matched inUse found]
    exact iff_of_true ⟨.inr (.inr rfl), rfl⟩ (by simp)
  | some resource =>
    rw [serve_of_resource get matched inUse found]
    have named := isEncodable_of_find? keyed encodable matched found
    simpa using isAnswer_of_query_iff encodable named

end Session

/-- A query on a resource that can be told has no refusal that cannot. -/
theorem told_of_resource {config : Config} {resource : Resource} {refusal : Refusal}
    (encodable : request.IsEncodable) (told : AllEncodable resource.columns)
    (refused : (request.query.examine config resource).result = .error refusal) :
    AllEncodable refusal.texts :=
  List.all_eq_true.1 ((Query.meets_examine encodable.query).of_error refused told)

namespace Session.Reached

variable {session : Session} {overrides : Dictionary Override}

/-- The registry of the overrides in use is looked into. -/
theorem registry?_of_inUse (reached : Reached process environment steps session)
    (looksUp : (Step.request request).looksUp = true)
    (inUse : OverridesInUse process environment (steps ++ [.request request]) overrides) :
    session.registry? (.request request) = .ok (.ofOverrides overrides) :=
  reached.registry?_of_firstUse looksUp (firstUse_iff.2 ⟨overrides, inUse, rfl⟩)

/-- Without overrides in use the service fails, for a fatal text. -/
theorem fails (reached : Reached process environment steps session)
    (looksUp : (Step.request request).looksUp = true)
    (none : ∀ overrides,
      ¬ OverridesInUse process environment (steps ++ [.request request]) overrides) :
    (session.serve request).1.status = 500 ∧
      Settings.IsFatal (process.room (.request request))
        (columnsAfter process environment steps) := by
  rcases reached.lookUp looksUp with ⟨registry, -, first⟩ | ⟨fault, failed, -, built, -⟩
  · obtain ⟨overrides, inUse, -⟩ := firstUse_iff.1 first
    exact absurd inUse (none overrides)
  · have answered : Answer.response (session.serve request).1 = _ :=
      (run_of_fault looksUp failed).1
    rw [Answer.response.inj answered]
    exact ⟨rfl, Settings.isFatal_iff.2 ⟨fault, map_eq_error_iff.1 built⟩⟩

/-- A list is sent exactly if the overrides in use can be told. -/
theorem listed (reached : Reached process environment steps session)
    (looksUp : (Step.request request).looksUp = true)
    (inUse : OverridesInUse process environment (steps ++ [.request request]) overrides)
    (matched : Endpoint.ofPath? request.path = some .resources) :
    (session.serve request).1.IsAnswer ↔ CanBeTold overrides := by
  obtain ⟨get, -⟩ := endpoint_of_looksUp looksUp
  rw [serve_of_resources get matched (reached.registry?_of_inUse looksUp inUse),
    isAnswer_of_resources_iff, inUse.canBeTold_iff]

/-- A query is answered exactly if its refusal, if there is one, can be told. -/
theorem queried {name : Text} (reached : Reached process environment steps session)
    (encodable : request.IsEncodable) (looksUp : (Step.request request).looksUp = true)
    (inUse : OverridesInUse process environment (steps ++ [.request request]) overrides)
    (matched : Endpoint.ofPath? request.path = some (.query name)) :
    (session.serve request).1.IsAnswer ↔ ∀ resource,
      (Registry.ofOverrides overrides).find? name = some resource → ∀ refusal,
        (request.query.examine (process.settings.inEffect (environmentAfter environment steps))
          resource).result = .error refusal → AllEncodable refusal.texts := by
  obtain ⟨get, -⟩ := endpoint_of_looksUp looksUp
  rw [← reached.config]
  exact isAnswer_serve_iff encodable get matched (reached.registry?_of_inUse looksUp inUse)
    (Registry.keyed_ofOverrides overrides)

/-- If the overrides in use can be told, a request to look up resources is answered. -/
theorem told (reached : Reached process environment steps session)
    (encodable : request.IsEncodable) (looksUp : (Step.request request).looksUp = true)
    (inUse : OverridesInUse process environment (steps ++ [.request request]) overrides)
    (told : CanBeTold overrides) : (session.serve request).1.IsAnswer := by
  obtain ⟨-, matched | ⟨name, matched⟩⟩ := endpoint_of_looksUp looksUp
  · exact (reached.listed looksUp inUse matched).2 told
  · refine (reached.queried encodable looksUp inUse matched).2 fun resource found refusal => ?_
    have all := inUse.canBeTold_iff.2 told resource (Registry.mem_resources_iff.2 ⟨_, found⟩)
    exact told_of_resource encodable (Resource.allEncodable_columns all)

end Session.Reached

/-- No configuration is a reason to fail unless reading it exceeds a limit. It is made out, whatever
it holds, and every request to look up resources goes by the configuration in use. -/
theorem configuration_never_fatal (process : Process) (environment : Environment)
    (steps : List Step) :
    (∀ room, (∃ overrides,
        process.settings.overrides (environmentAfter environment steps) room = .ok overrides ∧
        Settings.MakesOut (columnsAfter process environment steps) overrides) ↔
      ¬ Settings.IsFatal room (columnsAfter process environment steps)) ∧
    ∀ request : Request, request.IsEncodable → (Step.request request).looksUp = true →
      Withstands process environment steps request
        (((Session.initial process environment).after steps).serve request).1 := by
  refine ⟨fun room => Settings.exists_makesOut_iff, fun request encodable looksUp => ?_⟩
  have reached := Session.reached_after process environment steps
  exact ⟨reached.fails looksUp, fun overrides => reached.listed looksUp,
    fun overrides name => reached.queried encodable looksUp,
    fun overrides => reached.told encodable looksUp⟩

/-- Resources are listed under a configuration with members that are not usable. -/
theorem configuration_never_fatal_colliding :
    (∃ overrides,
      Settings.standard.overrides (environmentAfter .empty
        [.setVariable "LISTQ_RESOURCE_COLUMNS" collidingColumns]) = .ok overrides ∧
      Settings.MakesOut collidingColumns overrides) ∧
    ((Session.after .start [.setVariable "LISTQ_RESOURCE_COLUMNS" collidingColumns]).serve
      ⟨"GET", "/resources", [], some "r", []⟩).1.IsAnswer := by
  obtain ⟨steps, areSteps⟩ : ∃ steps : List Step,
      steps = [.setVariable "LISTQ_RESOURCE_COLUMNS" collidingColumns] := ⟨_, rfl⟩
  obtain ⟨asked, isAsked⟩ : ∃ asked : Request, asked = ⟨"GET", "/resources", [], some "r", []⟩ :=
    ⟨_, rfl⟩
  have configures : columnsAfter .standard .empty steps = collidingColumns := by
    rw [areSteps]
    decide +kernel
  have read : ∀ room ∈ [Json.Room.usual, .upTo 989],
      Settings.overridesOfText room collidingColumns = .ok
        [("users", ⟨some ["a"], none, none, none⟩), ("οδος", ⟨none, some [], none, none⟩)] := by
    decide +kernel
  obtain ⟨makesOut, answers⟩ := configuration_never_fatal .standard .empty steps
  rw [← areSteps, ← isAsked]
  constructor
  · rw [configures] at makesOut
    refine (makesOut .usual).2 (fun fatal => ?_)
    obtain ⟨fault, failed⟩ := Settings.isFatal_iff.1 fatal
    cases (read .usual (by simp)).symm.trans failed
  · have looksUp : (Step.request asked).looksUp = true := by
      rw [isAsked]
      decide
    have inUse : OverridesInUse .standard .empty (steps ++ [.request asked])
        [("users", ⟨some ["a"], none, none, none⟩), ("οδος", ⟨none, some [], none, none⟩)] := by
      refine ⟨steps, .request asked, ⟨[], rfl, looksUp, by simp⟩, ?_, ?_⟩
      · rintro before use ⟨later, split, uses, -⟩
        rw [areSteps, List.cons_eq_append_iff] at split
        rcases split with ⟨rfl, split⟩ | ⟨_, rfl, split⟩
        · cases split
          cases uses
        · simp at split
      · rw [configures]
        exact read _ (by simp [Process.standard, Process.usualRoom])
    refine (answers asked ?_ looksUp).told _ inUse ?_
    · rw [isAsked]
      exact ⟨by decide, by simp, by decide, by decide⟩
    · unfold CanBeTold AllEncodable
      decide

/-! ## A configuration that is fatal -/

/-- A number of too many digits is fatal, however much room there is. -/
theorem isFatal_of_digits (room : Json.Room) {digits : Text} (run : DigitRun digits)
    (unpadded : digits.head? ≠ some (.scalar '0')) (long : Json.maxDigits < digits.length) :
    Settings.IsFatal room digits := by
  rw [Settings.IsFatal, trim_of_bare run.bare]
  exact ⟨run.nonempty, Json.exceeds_of_digits room run unpadded long⟩

/-- One bracket more than there is room for is fatal. -/
theorem isFatal_of_brackets (depth : Nat) :
    Settings.IsFatal (.upTo depth) (List.replicate (depth + 1) (.scalar '[')) := by
  have bare : Bare isBlank (List.replicate (depth + 1) (.scalar '[')) :=
    .of_forall fun c member => by rw [List.eq_of_mem_replicate member]; rfl
  rw [Settings.IsFatal, trim_of_bare bare]
  refine ⟨by simp, ?_⟩
  have exceeds := Json.exceeds_of_brackets depth []
  rwa [List.append_nil] at exceeds

/-- Under a configuration the process cannot make out the overrides for a request, the list of
resources fails, and so does a query. -/
structure FailsUnder (process : Process) (environment : Environment) : Prop where
  unread : ∀ request overrides,
    process.settings.overrides environment (process.room (.request request)) ≠ .ok overrides
  listing : ((Session.initial process environment).serve
    ⟨"GET", "/resources", [], some "r", []⟩).1.status = 500
  querying : ((Session.initial process environment).serve
    ⟨"GET", "/resources/users/query", [], some "r", []⟩).1.status = 500

/-- A process fails under a configuration that is fatal to every request. -/
theorem failsUnder_of_isFatal {text : Text}
    (configures : environment.value? .resourceColumns = some text)
    (fatal : ∀ request, Settings.IsFatal (process.room (.request request)) text) :
    FailsUnder process environment := by
  have failed : ∀ request, ∃ fault,
      process.settings.overrides environment (process.room (.request request)) = .error fault := by
    intro request
    rw [Settings.overrides, configures]
    exact Settings.isFatal_iff.1 (fatal request)
  have status : ∀ request, (Step.request request).looksUp = true →
      ((Session.initial process environment).serve request).1.status = 500 := by
    intro request looksUp
    obtain ⟨fault, failed⟩ := failed request
    have inUse : Session.registry? (.initial process environment) (.request request) =
        .error fault :=
      map_eq_error_iff.2 failed
    have answered : Answer.response ((Session.initial process environment).serve request).1 = _ :=
      (Session.run_of_fault looksUp inUse).1
    rw [Answer.response.inj answered]
    rfl
  refine ⟨fun request overrides read => ?_, status _ (by decide), status _ (by decide)⟩
  obtain ⟨fault, failed⟩ := failed request
  cases read.symm.trans failed

/-- A configuration that is a number of 4301 digits is no object, and yet it is not ignored, and
neither is one of 990 brackets. -/
theorem configuration_fatal :
    FailsUnder .standard
      (Environment.empty.update .resourceColumns (some (List.replicate 4301 (.scalar '1')))) ∧
    FailsUnder .standard
      (Environment.empty.update .resourceColumns (some (List.replicate 990 (.scalar '[')))) := by
  refine ⟨failsUnder_of_isFatal rfl fun request => ?_,
    failsUnder_of_isFatal rfl fun request => isFatal_of_brackets 989⟩
  refine isFatal_of_digits _ (.replicate rfl (by decide)) ?_ ?_
  · rw [List.replicate_succ, List.head?_cons]
    decide
  · rw [List.length_replicate]
    decide

end ListQuery.Service
