import ListQuery.Proofs.Limit.Reading
import ListQuery.Proofs.Service.History

/-!
# Limits in answers

The bounds of the configuration are there for what clients ask for. A query that asks for no limit
gets the standard one as it is configured, and nothing compares it with the bounds. `Limit.Granted`
says so of one query. Every answer of a session that tells a limit tells a granted one, under the
bounds of its environment at that step (`limits_granted`). So the bounds hold for every limit that
was asked for, and for the others exactly as far as the configuration keeps the standard limit
within them.
-/

namespace ListQuery

/-- A limit is within bounds. -/
def LimitBounds.Admits (bounds : LimitBounds) (limit : Int) : Prop :=
  bounds.least ≤ limit ∧ limit ≤ bounds.most

instance (bounds : LimitBounds) (limit : Int) : Decidable (bounds.Admits limit) :=
  inferInstanceAs (Decidable (_ ∧ _))

namespace Limit

variable {bounds : LimitBounds} {asked : Option Text} {limit : Int}

/-- The limit that a query gets: the one that it asks for, within bounds, or the standard one if it
asks for none. -/
inductive Granted (bounds : LimitBounds) : Option Text → Int → Prop where
  | standard {asked : Option Text} (unasked : asked.getD [] = []) :
      Granted bounds asked bounds.standard
  | asked {raw : Text} {limit : Int} (writes : Writes raw limit) (admitted : bounds.Admits limit) :
      Granted bounds (some raw) limit

/-- A limit is read exactly if it is granted. -/
theorem parse_eq_ok_iff_granted : parse bounds asked = .ok limit ↔ Granted bounds asked limit := by
  rw [eq_comm, ← judged_iff]
  constructor
  · intro judged
    cases judged with
    | absent | empty => exact .standard rfl
    | within writes least most => exact .asked writes ⟨least, most⟩
  · intro granted
    cases granted with
    | standard unasked =>
      cases asked with
      | none => exact .absent
      | some raw =>
        obtain rfl : raw = [] := unasked
        exact .empty
    | asked writes admitted => exact .within writes admitted.1 admitted.2

/-- A granted limit is within the bounds if it was asked for, or if the standard limit is. -/
theorem Granted.admits_iff (granted : Granted bounds asked limit) :
    bounds.Admits limit ↔ asked.getD [] ≠ [] ∨ bounds.Admits bounds.standard := by
  cases granted with
  | standard unasked => simp [unasked]
  | asked writes admitted => simp [admitted, writes.ne_nil]

end Limit

namespace Service

open Limit (Granted)

/-- The answer to a step tells a limit. With it goes what the step asked for: the text of a limit,
or none. -/
inductive Tells : Step → Answer → Option Text → Int → Prop where
  | limit {raw : Option Text} {limit : Int} : Tells (.parseLimit raw) (.limit (.ok limit)) raw limit
  | selection {name : Text} {query : Query} {selection : Selection} {records : List LogRecord} :
      Tells (.listQuery name query) (.listQuery (some (.ok selection)) records) query.limit
        selection.limit
  | response {request : Request} {response : Response} {answer : QueryAnswer}
      (body : response.body = .query answer) :
      Tells (.request request) (.response response) request.query.limit answer.limit

/-- A response with an answer to a query is sent as it is. -/
theorem body_of_sent {response : Response} {answer : QueryAnswer}
    (sent : response.sent.body = .query answer) : response.body = .query answer := by
  unfold Response.sent at sent
  split at sent
  · exact sent
  · cases sent

namespace Session

variable {session : Session}

/-- The answer to an accepted query tells the limit of its selection. -/
theorem limit_of_answerQuery {config : Config} {resource : Resource} {request : Request}
    {answer : QueryAnswer}
    (told : (answerQuery config resource request).1.body = .query answer) :
    ∃ selection, (request.query.examine config resource).result = .ok selection ∧
      selection.limit = answer.limit := by
  unfold answerQuery at told
  dsimp only at told
  split at told
  · cases told
  · rename_i selection accepted
    refine ⟨selection, accepted, ?_⟩
    split at told
    · rename_i reported isAnswer
      cases told
      obtain ⟨conditions, -, rfl⟩ := Option.map_eq_some_iff.1 isAnswer
      rfl
    · cases told

/-- A handler that answers a query has examined it on a resource, and tells its limit. -/
theorem limit_of_handle {request : Request} {answer : QueryAnswer}
    (told : (session.handle request).response.body = .query answer) :
    ∃ resource selection, (request.query.examine session.config resource).result = .ok selection ∧
      selection.limit = answer.limit := by
  unfold handle at told
  split at told
  · rename_i endpoint matched
    split at told
    · unfold answerEndpoint at told
      cases endpoint with
      | health | page => cases told
      | metrics | resources =>
        dsimp only at told
        split at told <;> cases told
      | query name =>
        dsimp only at told
        split at told
        · cases told
        · split at told
          · cases told
          · exact ⟨_, limit_of_answerQuery told⟩
    · cases told
  · split at told <;> cases told

/-- The limit of an accepted query is granted. -/
theorem granted_of_examine {config : Config} {resource : Resource} {query : Query}
    {selection : Selection} (accepted : (query.examine config resource).result = .ok selection) :
    Granted config.limits query.limit selection.limit :=
  Limit.parse_eq_ok_iff_granted.1 (Query.result_examine_eq_ok_iff.1 accepted).limit

/-- A limit that the answer to a step tells was granted under the settings in effect. -/
theorem granted_of_run {step : Step} {asked : Option Text} {limit : Int}
    (tells : Tells step (session.run step).1 asked limit) :
    Granted session.config.limits asked limit := by
  generalize answered : (session.run step).1 = answer at tells
  cases tells with
  | limit => exact Limit.parse_eq_ok_iff_granted.1 (Answer.limit.inj answered)
  | selection =>
    unfold run listQuery at answered
    dsimp only at answered
    split at answered
    · cases answered
    · split at answered
      · cases answered
      · injection answered with examined
        exact granted_of_examine (Option.some.inj examined)
  | response body =>
    obtain rfl := Answer.response.inj answered
    obtain ⟨resource, selection, accepted, same⟩ := limit_of_handle (body_of_sent body)
    exact same ▸ granted_of_examine accepted

/-- The answers of a run are those of its steps, each in the state that the steps before it led
to. -/
theorem getElem?_runAll (session : Session) (steps : List Step) (index : Nat) :
    (session.runAll steps)[index]? = steps[index]?.map fun step =>
      ((session.after (steps.take index)).run step).1 := by
  induction steps generalizing session index with
  | nil => rfl
  | cons step steps ih =>
    cases index with
    | zero => rfl
    | succ index => exact ih (session.run step).2 index

end Session

/-- A limit is read under an environment exactly if it is granted. In any run of a session, every
limit that an answer tells was granted under the bounds of the environment at that step, so it is
within them if it was asked for, and otherwise if the standard limit is. -/
theorem limits_granted (process : Process) (environment : Environment) (steps : List Step) :
    (∀ asked limit,
      Limit.parse (process.settings.inEffect environment).limits asked = .ok limit ↔
        Granted (process.settings.inEffect environment).limits asked limit) ∧
    ∀ index step answer asked limit, steps[index]? = some step →
      ((Session.initial process environment).runAll steps)[index]? = some answer →
      Tells step answer asked limit →
      let bounds :=
        (process.settings.inEffect (environmentAfter environment (steps.take index))).limits
      Granted bounds asked limit ∧
        (bounds.Admits limit ↔ asked.getD [] ≠ [] ∨ bounds.Admits bounds.standard) := by
  refine ⟨fun asked limit => Limit.parse_eq_ok_iff_granted, ?_⟩
  intro index step answer asked limit isStep answered tells bounds
  rw [Session.getElem?_runAll, isStep] at answered
  cases answered
  have granted := Session.granted_of_run tells
  rw [(Session.reached_after process environment (steps.take index)).config] at granted
  exact ⟨granted, granted.admits_iff⟩

/-- Under bounds that were lowered on the way, a limit that is asked for is within them, although
the standard one is not. -/
theorem limits_granted_lowered :
    let asked : Request := ⟨"GET", "/resources/users/query", [("limit", "+04")], some "r", []⟩
    let steps := [.setVariable "LISTQ_MAX_LIMIT" "5", .request asked]
    let bounds : LimitBounds := ⟨10, 1, 5⟩
    ∃ response answer, (Session.start.runAll steps)[1]? = some (.response response) ∧
      response.body = .query answer ∧ answer.limit = 4 ∧
      bounds.Admits answer.limit ∧ ¬ bounds.Admits bounds.standard := by
  intro asked steps bounds
  have body : ((Session.start.after [.setVariable "LISTQ_MAX_LIMIT" "5"]).serve asked).1.body =
      .query ⟨"users", [], [], [], [], [], 4, "r"⟩ := by
    decide +kernel
  have inEffect : (Settings.standard.inEffect
      (environmentAfter .empty [.setVariable "LISTQ_MAX_LIMIT" "5"])).limits = bounds := by
    decide +kernel
  have granted :=
    (limits_granted .standard .empty steps).2 1 (.request asked) _ _ _ rfl rfl (.response body)
  refine ⟨_, _, rfl, body, rfl, ?_, by decide⟩
  rw [← inEffect]
  exact granted.2.2 (.inl (by decide))

/-- Where the most is lowered and nothing else is configured, a query that asks for no limit gets
the standard one, beyond the bounds, which is refused to a query that asks for it. -/
theorem standard_beyond_bounds :
    let environment := Environment.empty.update .maxLimit (some "5")
    let bounds := (Settings.standard.inEffect environment).limits
    bounds.least ≤ bounds.most ∧ ¬ bounds.Admits 10 ∧
      Limit.parse bounds none = .ok 10 ∧ Limit.parse bounds (some []) = .ok 10 ∧
      Limit.parse bounds (some "10") =
        .error ⟨"limit", .outOfRange, some "10", some "integer between 1 and 5"⟩ ∧
      ((Session.initial .standard environment).serve
        ⟨"GET", "/resources/users/query", [], some "r", []⟩).1.body =
          .query ⟨"users", [], [], [], [], [], 10, "r"⟩ ∧
      ¬ ∀ environment asked limit,
        let bounds := (Settings.standard.inEffect environment).limits
        bounds.least ≤ bounds.most → Limit.parse bounds asked = .ok limit →
          bounds.Admits limit := by
  intro environment bounds
  have beyond : ¬ bounds.Admits 10 := by decide +kernel
  have read : Limit.parse bounds none = .ok 10 := by decide +kernel
  refine ⟨by decide +kernel, beyond, read, by decide +kernel, by decide +kernel, by decide +kernel,
    fun enforced => ?_⟩
  exact beyond (enforced environment none 10 (by decide +kernel) read)

end Service

end ListQuery
