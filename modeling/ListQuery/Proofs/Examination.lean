import ListQuery.Query

/-!
# What an examination leaves

An examination ends in a refusal of one parameter or in a selection, and `examine_cases` says which
events and records it leaves in each case: every parameter up to the one at fault is counted, and
a rejected expression is recorded once.
-/

namespace ListQuery

/-- The records of a refused parameter: one if its expression was rejected. -/
def Refusal.records (resource : Text) (parameter : Parameter) (refusal : Refusal) :
    List LogRecord :=
  match refusal.reason with
  | .rejected reason =>
    [.parameterRejected resource parameter ⟨reason, refusal.token, refusal.expected⟩]
  | _ => []

namespace Parameter

/-- The parameters of a list query that are looked at before a given one. -/
def before : Parameter → List Parameter
  | sort => []
  | filter => [sort]
  | fields => [sort, filter]
  | limit => [sort, filter, fields]

/-- No two parameters share a name. -/
theorem name_injective {parameter other : Parameter} (same : parameter.name = other.name) :
    parameter = other := by
  revert same
  cases parameter <;> cases other <;> decide

/-- Whether a parameter can be refused for a reason. -/
def isRefusedFor : Parameter → Refusal.Reason → Bool
  | limit, .notAnInteger | limit, .outOfRange => true
  | limit, _ => false
  | _, .rejected _ | _, .tooLong => true
  | _, _ => false

end Parameter

namespace Query

/-- The events of parameters that were accepted. -/
def accepted (parameters : List Parameter) : List Event :=
  parameters.map fun parameter => .validation parameter none

/-- Events that are counted if metrics are enabled. -/
def countedIf (config : Config) (events : List Event) : List Event :=
  if config.metricsEnabled then events else []

/-- Events are counted together if they are counted one by one. -/
@[simp] theorem countedIf_append (config : Config) (first second : List Event) :
    countedIf config first ++ countedIf config second = countedIf config (first ++ second) := by
  unfold countedIf
  split <;> rfl

/-- The events of an examination that found the given fault. -/
def events (config : Config) (fault : Option (Parameter × Refusal.Reason)) : List Event :=
  countedIf config <|
    match fault with
    | none => accepted [.sort, .filter, .fields, .limit]
    | some (parameter, reason) => accepted parameter.before ++ [.validation parameter (some reason)]

/-- The examination of one parameter that came out as `result`. -/
def settled {α : Type} (config : Config) (resource : Text) (parameter : Parameter)
    (result : Except Refusal α) : Examination α :=
  .counted config parameter result <|
    match result with
    | .ok _ => []
    | .error refusal => refusal.records resource parameter

/-- Behind an accepted parameter the examination goes on. -/
@[simp] theorem settled_ok_andThen {α β : Type} (config : Config) (resource : Text)
    (parameter : Parameter) (value : α) (next : α → Examination β) :
    (settled config resource parameter (.ok value)).andThen next =
      ⟨(next value).result,
        countedIf config [.validation parameter none] ++ (next value).events,
        (next value).records⟩ :=
  rfl

/-- Behind a refused parameter nothing is looked at. -/
@[simp] theorem settled_error_andThen {α β : Type} (config : Config) (resource : Text)
    (parameter : Parameter) (refusal : Refusal) (next : α → Examination β) :
    (settled config resource parameter (.error refusal)).andThen next =
      ⟨.error refusal, countedIf config [.validation parameter (some refusal.reason)],
        refusal.records resource parameter⟩ :=
  rfl

/-- How one expression comes out. -/
def outcome {α : Type} (config : Config) (parameter : Parameter) (raw : Text)
    (parsed : Except Rejection α) : Except Refusal α :=
  if config.maxExpressionLength < raw.length then .error (tooLong config parameter)
  else parsed.mapError (.ofRejection parameter.name)

variable {α : Type} {config : Config} {parameter : Parameter}

/-- The examination of an expression leaves what belongs to its outcome. -/
theorem examineExpression_eq (resource raw : Text) (parsed : Except Rejection α) :
    examineExpression config resource parameter raw parsed =
      settled config resource parameter (outcome config parameter raw parsed) := by
  unfold examineExpression outcome
  split
  · rfl
  · cases parsed <;> rfl

/-- A refusal is one of a parameter: it names it, and has one of its reasons. -/
structure IsRefusal (parameter : Parameter) (refusal : Refusal) : Prop where
  named : refusal.parameter = parameter.name
  reason : parameter.isRefusedFor refusal.reason = true

/-- What refuses an expression is a refusal of its parameter. -/
theorem isRefusal_of_outcome {raw : Text} {parsed : Except Rejection α} {refusal : Refusal}
    (expression : parameter ≠ .limit)
    (refused : outcome config parameter raw parsed = .error refusal) :
    IsRefusal parameter refusal := by
  unfold outcome at refused
  split at refused
  · cases refused
    cases parameter <;> first | exact ⟨rfl, rfl⟩ | exact absurd rfl expression
  · cases parsed with
    | ok value => cases refused
    | error rejection =>
      cases refused
      cases parameter <;> first | exact ⟨rfl, rfl⟩ | exact absurd rfl expression

/-- What refuses a limit is a refusal of the limit. -/
theorem isRefusal_of_limit {bounds : LimitBounds} {raw : Option Text} {refusal : Refusal}
    (refused : Limit.parse bounds raw = .error refusal) : IsRefusal .limit refusal := by
  unfold Limit.parse at refused
  split at refused
  · cases refused
  · split at refused
    · cases refused
    · split at refused
      · cases refused
        exact ⟨rfl, rfl⟩
      · split at refused
        · cases refused
        · cases refused
          exact ⟨rfl, rfl⟩

/-- The examination of a limit leaves what belongs to its outcome. -/
theorem examineLimit_eq (resource : Text) (raw : Option Text) :
    examineLimit config raw =
      settled config resource .limit (Limit.parse config.limits raw) := by
  unfold examineLimit settled
  cases parsed : Limit.parse config.limits raw with
  | ok limit => rfl
  | error refusal =>
    have reason := (isRefusal_of_limit parsed).reason
    cases kind : refusal.reason <;> simp_all [Refusal.records, Parameter.isRefusedFor]

/-- A sequence of examinations ends as the sequence of its results. -/
theorem result_andThen {β : Type} {examination : Examination α} {next : α → Examination β} :
    (examination.andThen next).result = examination.result >>= fun a => (next a).result := by
  unfold Examination.andThen
  cases examination.result <;> rfl

/-- The result of an examination is put together from the outcomes of the parameters. -/
theorem result_examine (config : Config) (resource : Resource) (query : Query) :
    (examine config resource query).result = do
      let sort ← outcome config .sort query.sort (Sort.parse resource.sort query.sort)
      let filter ← outcome config .filter query.filter (Filter.parse resource.filter query.filter)
      let fields ← outcome config .fields query.fields (Fields.parse resource.fields query.fields)
      let limit ← Limit.parse config.limits query.limit
      return ⟨fields, sort, filter, limit⟩ := by
  simp only [examine, examineExpression_eq, examineLimit_eq resource.name, result_andThen]
  rfl

/-- What an examination of a query ends in, and what it leaves. -/
inductive Examined (config : Config) (resource : Text) (examination : Examination Selection) :
    Prop where
  | refused (parameter : Parameter) (refusal : Refusal) (isRefusal : IsRefusal parameter refusal)
      (result : examination.result = .error refusal)
      (counted : examination.events = events config (some (parameter, refusal.reason)))
      (recorded : examination.records = refusal.records resource parameter)
  | accepted (selection : Selection) (result : examination.result = .ok selection)
      (counted : examination.events = events config none) (recorded : examination.records = [])

/-- An examination of a query ends in a refusal or a selection, and leaves what belongs to it. -/
theorem examine_cases (config : Config) (resource : Resource) (query : Query) :
    Examined config resource.name (examine config resource query) := by
  rw [examine, examineExpression_eq, examineExpression_eq, examineExpression_eq,
    examineLimit_eq resource.name]
  -- The first outcome that is a refusal settles the query.
  cases sort : outcome config .sort query.sort (Sort.parse resource.sort query.sort) with
  | error refusal =>
    exact .refused .sort refusal (isRefusal_of_outcome (by simp) sort) rfl rfl rfl
  | ok keys =>
    cases filter : outcome config .filter query.filter
        (Filter.parse resource.filter query.filter) with
    | error refusal =>
      refine .refused .filter refusal (isRefusal_of_outcome (by simp) filter) rfl ?_ rfl
      simp [events, accepted, Parameter.before]
    | ok conditions =>
      cases fields : outcome config .fields query.fields
          (Fields.parse resource.fields query.fields) with
      | error refusal =>
        refine .refused .fields refusal (isRefusal_of_outcome (by simp) fields) rfl ?_ rfl
        simp [events, accepted, Parameter.before]
      | ok columns =>
        cases limit : Limit.parse config.limits query.limit with
        | error refusal =>
          refine .refused .limit refusal (isRefusal_of_limit limit) rfl ?_ rfl
          simp [events, accepted, Parameter.before]
        | ok number =>
          refine .accepted ⟨columns, keys, conditions, number⟩ rfl ?_ rfl
          simp [events, accepted]

end Query

end ListQuery
