import Mathlib.Data.List.Nodup
import ListQuery.Proofs.Examination
import ListQuery.Proofs.Leftmost
import ListQuery.Proofs.Query

/-!
# The first parameter at fault

`Query.IsAtFault` says what is wrong with each parameter of a query, without an order between them.
An examination refuses a query for the first parameter at fault in the order of
`Parameter.all`, and counts that parameter and those before it, each once. It accepts a query
exactly if no parameter is at fault.
-/

namespace ListQuery

namespace Parameter

/-- The parameters of a list query in the order in which they are looked at. -/
def all : List Parameter := [sort, filter, fields, limit]

/-- Every parameter is looked at. -/
theorem mem_all (parameter : Parameter) : parameter ∈ all := by
  cases parameter <;> decide

end Parameter

namespace Query

variable {config : Config} {resource : Resource} {query : Query}

/-- An expression is refused: for its length, or else for what its reader rejects. -/
inductive Refuses {α : Type} (config : Config) (parameter : Parameter) (raw : Text)
    (parsed : Except Rejection α) : Refusal → Prop where
  | tooLong (long : config.maxExpressionLength < raw.length) :
      Refuses config parameter raw parsed
        { parameter := parameter.name
          reason := .tooLong
          token := none
          expected := some ("at most " ++ Text.ofInt config.maxExpressionLength ++ " characters") }
  | rejected {reason : Reason} {token expected : Option Text}
      (fits : raw.length ≤ config.maxExpressionLength)
      (rejects : parsed = .error ⟨reason, token, expected⟩) :
      Refuses config parameter raw parsed
        { parameter := parameter.name
          reason := .rejected reason
          token := token
          expected := expected }

/-- What is wrong with each parameter of a query. -/
def IsAtFault (config : Config) (resource : Resource) (query : Query) : Parameter → Refusal → Prop
  | .sort => Refuses config .sort query.sort (Sort.parse resource.sort query.sort)
  | .filter => Refuses config .filter query.filter (Filter.parse resource.filter query.filter)
  | .fields => Refuses config .fields query.fields (Fields.parse resource.fields query.fields)
  | .limit => fun refusal => Limit.parse config.limits query.limit = .error refusal

/-- Something is wrong with a parameter. -/
def HasFault (config : Config) (resource : Resource) (query : Query) (parameter : Parameter) :
    Prop :=
  ∃ refusal, IsAtFault config resource query parameter refusal

/-- An expression is refused exactly if its outcome is a refusal. -/
theorem refuses_iff {α : Type} {parameter : Parameter} {raw : Text}
    {parsed : Except Rejection α} {refusal : Refusal} :
    Refuses config parameter raw parsed refusal ↔
      outcome config parameter raw parsed = .error refusal := by
  unfold outcome
  constructor
  · rintro (long | ⟨fits, rfl⟩)
    · rw [if_pos long]
      rfl
    · rw [if_neg (by omega)]
      rfl
  · intro refused
    split at refused
    · rename_i long
      cases refused
      exact .tooLong long
    · rename_i fits
      cases parsed with
      | ok value => cases refused
      | error rejection =>
        cases refused
        exact .rejected (by omega) rfl

/-- An expression that is not refused is read. -/
theorem exists_outcome_of_not_refuses {α : Type} {parameter : Parameter} {raw : Text}
    {parsed : Except Rejection α}
    (passes : ¬ ∃ refusal, Refuses config parameter raw parsed refusal) :
    ∃ value, outcome config parameter raw parsed = .ok value := by
  cases out : outcome config parameter raw parsed with
  | ok value => exact ⟨value, rfl⟩
  | error refusal => exact absurd ⟨refusal, refuses_iff.2 out⟩ passes

/-- A query is refused for its first parameter at fault. -/
theorem result_examine_of_leftmost {parameter : Parameter} {refusal : Refusal}
    (first : Leftmost (HasFault config resource query) Parameter.all parameter)
    (fault : IsAtFault config resource query parameter refusal) :
    (examine config resource query).result = .error refusal := by
  rw [result_examine]
  -- Each parameter before the first fault has an outcome, which hands over to the next one.
  cases first with
  | here found => exact bind_eq_error_iff.2 (.inl (refuses_iff.1 fault))
  | later sortPasses first =>
    obtain ⟨sort, isSort⟩ := exists_outcome_of_not_refuses sortPasses
    refine bind_eq_error_iff.2 (.inr ⟨sort, isSort, ?_⟩)
    cases first with
    | here found => exact bind_eq_error_iff.2 (.inl (refuses_iff.1 fault))
    | later filterPasses first =>
      obtain ⟨filter, isFilter⟩ := exists_outcome_of_not_refuses filterPasses
      refine bind_eq_error_iff.2 (.inr ⟨filter, isFilter, ?_⟩)
      cases first with
      | here found => exact bind_eq_error_iff.2 (.inl (refuses_iff.1 fault))
      | later fieldsPass first =>
        obtain ⟨fields, areFields⟩ := exists_outcome_of_not_refuses fieldsPass
        refine bind_eq_error_iff.2 (.inr ⟨fields, areFields, ?_⟩)
        cases first with
        | here found => exact bind_eq_error_iff.2 (.inl fault)
        | later limitPasses first => cases first

/-- A refusal names the parameter that is at fault. -/
theorem IsAtFault.named {parameter : Parameter} {refusal : Refusal}
    (fault : IsAtFault config resource query parameter refusal) :
    refusal.parameter = parameter.name := by
  cases parameter with
  | limit => exact (isRefusal_of_limit fault).named
  | _ => exact (isRefusal_of_outcome (by decide) (refuses_iff.1 fault)).named

/-- A query is accepted exactly if no parameter is at fault. -/
theorem exists_selection_iff :
    (∃ selection, (examine config resource query).result = .ok selection) ↔
      ∀ parameter, ¬ HasFault config resource query parameter := by
  constructor
  · rintro ⟨selection, accepted⟩ parameter fault
    obtain ⟨first, leftmost⟩ := Leftmost.exists_of_mem (Parameter.mem_all parameter) fault
    obtain ⟨refusal, isFault⟩ := leftmost.property
    cases accepted.symm.trans (result_examine_of_leftmost leftmost isFault)
  · intro passes
    obtain ⟨sort, isSort⟩ := exists_outcome_of_not_refuses (passes .sort)
    obtain ⟨filter, isFilter⟩ := exists_outcome_of_not_refuses (passes .filter)
    obtain ⟨fields, areFields⟩ := exists_outcome_of_not_refuses (passes .fields)
    cases isLimit : Limit.parse config.limits query.limit with
    | error refusal => exact absurd ⟨refusal, isLimit⟩ (passes .limit)
    | ok limit =>
      refine ⟨⟨fields, sort, filter, limit⟩, ?_⟩
      rw [result_examine, isSort, isFilter, areFields, isLimit]
      rfl

/-- An examination adds one to the counter of each of some events and nothing to any other if
metrics are enabled, and adds nothing at all otherwise. -/
def CountsOnce (config : Config) (examination : Examination Selection) (counted : List Event) :
    Prop :=
  ∀ (ledger : Ledger) (event : Event),
    (ledger.record examination.events).count event =
      ledger.count event + if config.metricsEnabled = true ∧ event ∈ counted then 1 else 0

/-- Distinct events that are counted if metrics are enabled add one to each of their counters. -/
theorem count_record_countedIf {counted : List Event} (distinct : counted.Nodup) (ledger : Ledger)
    (event : Event) : (ledger.record (countedIf config counted)).count event =
      ledger.count event + if config.metricsEnabled = true ∧ event ∈ counted then 1 else 0 := by
  rw [Ledger.count, Ledger.record, List.count_append, Ledger.count, countedIf]
  congr 1
  by_cases enabled : config.metricsEnabled = true
  · rw [if_pos enabled, distinct.count]
    simp [enabled]
  · simp [enabled]

/-- Distinct events that are counted if metrics are enabled are counted once. -/
theorem countsOnce_of_events {examination : Examination Selection} {counted : List Event}
    (events : examination.events = countedIf config counted) (distinct : counted.Nodup) :
    CountsOnce config examination counted := by
  intro ledger event
  rw [events]
  exact count_record_countedIf distinct ledger event

/-- No two of the events of distinct accepted parameters are the same. -/
theorem nodup_accepted {parameters : List Parameter} (distinct : parameters.Nodup) :
    (accepted parameters).Nodup :=
  List.Nodup.map (fun _ _ same => (Event.validation.inj same).1) distinct

/-- An examination that refuses a parameter counts it and those before it once. -/
theorem nodup_accepted_refused (parameter : Parameter) (reason : Refusal.Reason) :
    (accepted parameter.before ++ [Event.validation parameter (some reason)]).Nodup := by
  refine List.nodup_append.2 ⟨nodup_accepted (by cases parameter <;> decide), by simp, ?_⟩
  simp [accepted]

/-- The first parameter at fault settles a query. The refusal is what is wrong with it. If metrics
are enabled, each parameter before it is counted once as accepted, it is counted once as refused,
and nothing else is counted. A query without a fault is accepted as what its parameters
were read as, and all of them are counted. An empty allow-list refuses every query. -/
theorem examine_settled_by_first_fault (config : Config) (resource : Resource) (query : Query) :
    (∀ parameter refusal, Leftmost (HasFault config resource query) Parameter.all parameter →
      IsAtFault config resource query parameter refusal →
        (examine config resource query).result = .error refusal ∧
        CountsOnce config (examine config resource query)
          (accepted parameter.before ++ [.validation parameter (some refusal.reason)])) ∧
    ((∃ selection, (examine config resource query).result = .ok selection) ↔
      ∀ parameter, ¬ HasFault config resource query parameter) ∧
    (∀ selection, (examine config resource query).result = .ok selection →
      Accepts config resource query selection ∧
      CountsOnce config (examine config resource query) (accepted Parameter.all)) ∧
    (resource.sort = [] ∨ resource.filter = [] ∨ resource.fields = [] →
      ∃ refusal, (examine config resource query).result = .error refusal) := by
  refine ⟨?_, exists_selection_iff, ?_, ?_⟩
  · intro parameter refusal first fault
    have refused := result_examine_of_leftmost first fault
    refine ⟨refused, ?_⟩
    cases examine_cases config resource query with
    | refused found reported isRefusal result counted recorded =>
      cases refused.symm.trans result
      cases Parameter.name_injective (fault.named.symm.trans isRefusal.named)
      exact countsOnce_of_events counted (nodup_accepted_refused _ _)
    | accepted selection result counted recorded => cases refused.symm.trans result
  · intro selection accepts
    refine ⟨result_examine_eq_ok_iff.1 accepts, ?_⟩
    cases examine_cases config resource query with
    | refused found reported isRefusal result counted recorded =>
      cases accepts.symm.trans result
    | accepted selected result counted recorded =>
      exact countsOnce_of_events counted (nodup_accepted (by decide))
  · intro empty
    cases result : (examine config resource query).result with
    | error refusal => exact ⟨refusal, rfl⟩
    | ok selection =>
      have accepts := result_examine_eq_ok_iff.1 result
      rcases empty with noSort | noFilter | noFields
      · cases (noSort ▸ accepts.sort : Sort.parse [] query.sort = _)
      · cases (noFilter ▸ accepts.filter : Filter.parse [] query.filter = _)
      · cases (noFields ▸ accepts.fields : Fields.parse [] query.fields = _)

end Query

end ListQuery
