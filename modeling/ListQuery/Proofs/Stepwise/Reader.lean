import ListQuery.Proofs.Sort
import ListQuery.Proofs.Stepwise.Descent
import ListQuery.Verdict

/-!
# Readers step by step

The readers of filters, of sort orders and of projections as a program would run them, with the
branches that are there for faults that no text has. `readers_only_reject` says that they end in a
value or in a rejection, as the library does, so that every check ends in a verdict.
-/

namespace ListQuery.Stepwise

open Text ListQuery.Filter

/-! ## Filters -/

/-- The filter that a text writes. -/
def filter (allowed : AllowList) (raw : Text) : Except Stop Filter := do
  sound allowed.requireNonempty
  if raw = [] then return Filter.empty
  let (clauses, connectives, groups) ← read raw (← tokenize raw)
  if connectives.length ≠ clauses.length - 1 then .error (.defect .unconnected)
  else do
    sound (allowed.requireAll (clauses.map (·.column)))
    let conditions ← sound (clauses.mapM Condition.ofClause)
    return ⟨conditions, connectives, groups⟩

/-- A tree has a connective between any two neighbouring clauses. -/
theorem length_clauses (tree : Tree) : tree.clauses.length = tree.connectives.length + 1 := by
  induction tree with
  | clause => rfl
  | group inner ih => exact ih
  | clauseThen clause connective rest ih => simp [Tree.clauses, Tree.connectives, ih]
  | groupThen inner connective rest ihInner ihRest =>
    simp [Tree.clauses, Tree.connectives, ihInner, ihRest]
    omega

/-- A sequence of readers without defects has none. -/
theorem sound_bind {α β : Type} (outcome : Except Rejection α) (next : α → Except Rejection β) :
    sound (outcome >>= next) = sound outcome >>= fun a => sound (next a) := by
  cases outcome <;> rfl

/-- A reader without defects reads what it would read. -/
theorem sound_eq_ok_iff {α : Type} {outcome : Except Rejection α} {a : α} :
    sound outcome = .ok a ↔ outcome = .ok a := by
  cases outcome <;> simp [sound, Except.mapError]

/-- Reading a filter leads to no defect, and finds the filter of the library. -/
theorem filter_eq (allowed : AllowList) (raw : Text) :
    filter allowed raw = sound (Filter.parse allowed raw) := by
  rw [filter, Filter.parse, sound_bind]
  congr 1
  funext _
  by_cases nothing : raw = []
  · simp only [nothing, if_true]
    rfl
  · simp only [if_neg nothing]
    rw [tokenize_eq, Tree.ofText]
    cases cut : Filter.tokenize raw with
    | error rejection => rfl
    | ok tokens =>
      have meant := meant_of_scans (tokenize_eq_ok_iff.1 cut)
      show (read raw (tokens.map Token.of) >>= _) = sound (Tree.ofTokens raw tokens >>= _)
      rw [read_eq raw meant]
      cases Tree.ofTokens raw tokens with
      | error rejection => rfl
      | ok tree =>
        have connected : ¬ tree.connectives.length ≠ tree.clauses.length - 1 := by
          rw [length_clauses]
          simp
        simp only [Except.map, sound, Except.mapError, bind, Except.bind, connected, if_false]
        simp only [Filter.ofTree, bind, Except.bind]
        cases allowed.requireAll (tree.clauses.map (·.column)) with
        | error rejection => rfl
        | ok => cases tree.clauses.mapM Condition.ofClause <;> rfl

/-! ## Sort orders -/

/-- The keys of a sort order. -/
def sort (allowed : AllowList) (raw : Text) : Except Stop (List Sort.Key) := do
  sound allowed.requireNonempty
  if raw = [] then return []
  let columns := (Sort.parts raw).map (·.column)
  let directions := (Sort.parts raw).filterMap (·.direction)
  if columns = [] then .error (.defect .noColumn)
  else do
    sound (allowed.requireAll columns)
    if directions.length ≠ columns.length then
      match (Sort.parts raw).find? (·.direction.isNone) with
      | none => .error (.defect .nothingMissing)
      | some part =>
        reject (.expecting .cardinalityMismatch (trim part.source) Sort.Direction.hint)
    else
      sound ((columns.zip directions).mapM fun (column, direction) =>
        Sort.Key.ofTexts column direction)

/-- The parts of a sort order have directions unless one of them has none. -/
theorem mapM_directed (parts : List Sort.Part) :
    parts.mapM Sort.Part.directed =
      match parts.find? (·.direction.isNone) with
      | none => .ok ((parts.map (·.column)).zip (parts.filterMap (·.direction)))
      | some part =>
        .error (.expecting .cardinalityMismatch (trim part.source) Sort.Direction.hint) := by
  induction parts with
  | nil => rfl
  | cons part parts ih =>
    rw [List.mapM_cons, ih, Sort.Part.directed]
    cases missing : part.direction with
    | none => simp [missing, bind, Except.bind]
    | some direction =>
      simp only [List.find?_cons, missing, List.filterMap_cons]
      cases found : parts.find? (·.direction.isNone) <;> rfl

/-- There are as many directions as parts exactly if no part has none. -/
theorem length_directions_iff (parts : List Sort.Part) :
    (parts.filterMap (·.direction)).length = (parts.map (·.column)).length ↔
      parts.find? (·.direction.isNone) = none := by
  rw [List.length_map, List.filterMap_length_eq_length, List.find?_eq_none]
  simp [Option.isSome_iff_ne_none]

/-- Reading a sort order leads to no defect, and finds the keys of the library. -/
theorem sort_eq (allowed : AllowList) (raw : Text) :
    sort allowed raw = sound (Sort.parse allowed raw) := by
  rw [sort, Sort.parse, sound_bind]
  congr 1
  funext _
  by_cases nothing : raw = []
  · simp only [nothing, if_true]
    rfl
  · have columns : (Sort.parts raw).map (·.column) ≠ [] := by
      simp [Sort.parts, pieces_ne_nil]
    have same := length_directions_iff (Sort.parts raw)
    simp only [if_neg nothing, if_neg columns, sound_bind, mapM_directed, ne_eq, same]
    cases (Sort.parts raw).find? (·.direction.isNone) <;> rfl

/-! ## Projections -/

/-- Whether a column is in a list, which is gone through from the left. -/
def isListed (column : Text) : AllowList → Bool
  | [] => false
  | other :: rest => if column = other then true else isListed column rest

/-- Goes through columns from the left and stops at the first one that is not allowed. -/
def gate (allowed : AllowList) : List Text → Except Stop Unit
  | [] => .ok ()
  | column :: rest =>
    if isListed column allowed then gate allowed rest
    else reject (.expecting .unknownColumn column ("one of " ++ join ", " allowed))

/-- The columns of a projection. -/
def fields (allowed : AllowList) (raw : Text) : Except Stop (List Text) :=
  if allowed = [] then reject ⟨.emptyAllowList, none, none⟩
  else if raw = [] then .ok []
  else do
    let columns := Fields.tokens raw
    gate allowed columns
    return columns

/-- A column is found in a list exactly if it is in it. -/
theorem isListed_iff {column : Text} {allowed : AllowList} :
    isListed column allowed = true ↔ column ∈ allowed := by
  induction allowed with
  | nil => simp [isListed]
  | cons other rest ih =>
    rw [isListed, List.mem_cons, ← ih]
    split <;> simp_all

/-- Going through columns one by one stops where the library does. -/
theorem gate_eq (allowed : AllowList) (columns : List Text) :
    gate allowed columns = sound (allowed.requireAll columns) := by
  induction columns with
  | nil => rfl
  | cons column rest ih =>
    rw [gate, AllowList.requireAll, sound_bind, AllowList.require, ih]
    by_cases listed : column ∈ allowed
    · rw [if_pos listed, if_pos (isListed_iff.2 listed)]
      rfl
    · rw [if_neg listed, if_neg (mt isListed_iff.1 listed)]
      rfl

/-- Reading a projection finds the columns of the library. -/
theorem fields_eq (allowed : AllowList) (raw : Text) :
    fields allowed raw = sound (Fields.parse allowed raw) := by
  rw [fields, Fields.parse, sound_bind, AllowList.requireNonempty]
  by_cases empty : allowed = []
  · rw [if_pos empty, if_pos empty]
    rfl
  · rw [if_neg empty, if_neg empty]
    by_cases nothing : raw = []
    · rw [if_pos nothing, if_pos nothing]
      rfl
    · rw [if_neg nothing, if_neg nothing, sound_bind]
      show (gate allowed (Fields.tokens raw) >>= fun _ => _) = _
      rw [gate_eq]
      rfl

/-! ## Checks -/

/-- The verdict on what was read, or not. A defect is not caught. -/
def evaluate {α : Type} : Except Stop α → Except Defect Verdict
  | .ok _ => .ok ⟨none⟩
  | .error (.rejected rejection) => .ok ⟨some rejection⟩
  | .error (.defect defect) => .error defect

/-- A reader without defects has a verdict. -/
theorem evaluate_sound {α : Type} (outcome : Except Rejection α) :
    evaluate (sound outcome) = .ok (.ofResult outcome) := by
  cases outcome <;> rfl

/-- Only a rejection keeps a reader from ending in a value, and a check accepts what is read. -/
theorem isValid_ofResult_iff {α : Type} {outcome : Except Rejection α} :
    (Verdict.ofResult outcome).isValid = true ↔ ∃ a, outcome = .ok a := by
  cases outcome <;> simp [Verdict.ofResult, Verdict.isValid]

/-- Readers end in a value or a rejection: none of the faults that no text should have is met, and
every check ends in a verdict, which is valid exactly if the text is read. -/
theorem readers_only_reject (allowed : AllowList) (raw : Text) :
    (filter allowed raw = sound (Filter.parse allowed raw) ∧
      evaluate (filter allowed raw) = .ok (Filter.check allowed raw) ∧
      ((Filter.check allowed raw).isValid = true ↔ ∃ read, Filter.parse allowed raw = .ok read)) ∧
    (sort allowed raw = sound (Sort.parse allowed raw) ∧
      evaluate (sort allowed raw) = .ok (Sort.check allowed raw) ∧
      ((Sort.check allowed raw).isValid = true ↔ ∃ read, Sort.parse allowed raw = .ok read)) ∧
    (fields allowed raw = sound (Fields.parse allowed raw) ∧
      evaluate (fields allowed raw) = .ok (Fields.check allowed raw) ∧
      ((Fields.check allowed raw).isValid = true ↔
        ∃ read, Fields.parse allowed raw = .ok read)) := by
  refine ⟨⟨filter_eq allowed raw, ?_, isValid_ofResult_iff⟩,
    ⟨sort_eq allowed raw, ?_, isValid_ofResult_iff⟩,
    ⟨fields_eq allowed raw, ?_, isValid_ofResult_iff⟩⟩
  · rw [filter_eq]
    exact evaluate_sound _
  · rw [sort_eq]
    exact evaluate_sound _
  · rw [fields_eq]
    exact evaluate_sound _

end ListQuery.Stepwise
