import ListQuery.Proofs.Fields
import ListQuery.Proofs.Filter.Literal
import ListQuery.Proofs.Leftmost
import ListQuery.Proofs.Sort

/-!
# The allow-list is only a gate

The columns that a text names and what it stands for are settled without the allow-list, which
then lets the columns pass or not. So an allow-list never shapes what is read, and for a reader of
this form (`IsGated`) the order, the repetitions and the unused columns of a list make no
difference (`IsGate`).
-/

namespace ListQuery

namespace AllowList

variable {α : Type} {parse : AllowList → Text → Except Rejection α} {columns : α → List Text}

/-- An allow-list is only a gate: what passes one names columns of it, passes every other list
with these columns as the same value, and what is refused for another reason than an unknown
column is refused by every list. -/
structure IsGate (parse : AllowList → Text → Except Rejection α) (columns : α → List Text) :
    Prop where
  listed : ∀ (allowed : AllowList) (raw : Text) (value : α), parse allowed raw = .ok value →
    ∀ column ∈ columns value, column ∈ allowed
  kept : ∀ (allowed other : AllowList) (raw : Text) (value : α), other ≠ [] →
    parse allowed raw = .ok value → (∀ column ∈ columns value, column ∈ other) →
    parse other raw = .ok value
  refused : ∀ (allowed other : AllowList) (raw : Text) (rejection : Rejection), allowed ≠ [] →
    parse allowed raw = .error rejection → rejection.reason ≠ .unknownColumn →
    ∃ later, parse other raw = .error later

/-- What a text names and what it stands for do not depend on the allow-list, which the names have
to pass before the text is read to its end. -/
def IsGated (parse : AllowList → Text → Except Rejection α) (columns : α → List Text) : Prop :=
  ∀ raw, ∃ (named : Except Rejection (List Text)) (outcome : Except Rejection α),
    (∀ allowed : AllowList, parse allowed raw = allowed.requireNonempty >>= fun _ =>
      named >>= fun names => allowed.requireAll names >>= fun _ => outcome) ∧
    ∀ {names value}, named = .ok names → outcome = .ok value → columns value = names

/-- A gated reader accepts a text exactly if its names pass and the text stands for the value. -/
theorem gated_eq_ok_iff {allowed : AllowList} {named : Except Rejection (List Text)}
    {outcome : Except Rejection α} {value : α} :
    (allowed.requireNonempty >>= fun _ =>
      named >>= fun names => allowed.requireAll names >>= fun _ => outcome) = .ok value ↔
      allowed ≠ [] ∧ outcome = .ok value ∧
        ∃ names, named = .ok names ∧ ∀ column ∈ names, column ∈ allowed := by
  constructor
  · intro accepted
    obtain ⟨_, passed, accepted⟩ := bind_eq_ok_iff.1 accepted
    obtain ⟨names, isNamed, accepted⟩ := bind_eq_ok_iff.1 accepted
    obtain ⟨_, listed, isValue⟩ := bind_eq_ok_iff.1 accepted
    exact ⟨requireNonempty_eq_ok_iff.1 passed, isValue, names, isNamed,
      requireAll_eq_ok_iff.1 listed⟩
  · rintro ⟨nonempty, isValue, names, isNamed, listed⟩
    rw [requireNonempty_of_ne_nil nonempty, isNamed, isValue]
    have passed := requireAll_eq_ok_iff.2 listed
    apply bind_eq_ok_iff.2
    refine ⟨(), rfl, ?_⟩
    apply bind_eq_ok_iff.2
    refine ⟨names, rfl, ?_⟩
    exact bind_eq_ok_iff.2 ⟨(), passed, rfl⟩

/-- A gated reader refuses a text for what the text is, or for an unknown column. -/
theorem of_gated_eq_error {allowed : AllowList} {named : Except Rejection (List Text)}
    {outcome : Except Rejection α} {rejection : Rejection} (nonempty : allowed ≠ [])
    (refused : (allowed.requireNonempty >>= fun _ =>
      named >>= fun names => allowed.requireAll names >>= fun _ => outcome) = .error rejection) :
    named = .error rejection ∨ outcome = .error rejection ∨
      rejection.reason = .unknownColumn := by
  rcases bind_eq_error_iff.1 refused with empty | ⟨_, -, refused⟩
  · simp [requireNonempty_of_ne_nil nonempty] at empty
  rcases bind_eq_error_iff.1 refused with unnamed | ⟨_, -, refused⟩
  · exact .inl unnamed
  rcases bind_eq_error_iff.1 refused with stopped | ⟨_, -, failed⟩
  · obtain ⟨column, -, rfl⟩ := requireAll_eq_error_iff.1 stopped
    exact .inr (.inr rfl)
  · exact .inr (.inl failed)

/-- For a gated reader an allow-list is only a gate. -/
theorem IsGated.isGate (gated : IsGated parse columns) : IsGate parse columns where
  listed := by
    intro allowed raw value accepted
    obtain ⟨named, outcome, stages, same⟩ := gated raw
    rw [stages] at accepted
    obtain ⟨-, isValue, names, isNamed, listed⟩ := gated_eq_ok_iff.1 accepted
    rw [same isNamed isValue]
    exact listed
  kept := by
    intro allowed other raw value nonempty accepted listed
    obtain ⟨named, outcome, stages, same⟩ := gated raw
    rw [stages] at accepted ⊢
    obtain ⟨-, isValue, names, isNamed, -⟩ := gated_eq_ok_iff.1 accepted
    rw [same isNamed isValue] at listed
    exact gated_eq_ok_iff.2 ⟨nonempty, isValue, names, isNamed, listed⟩
  refused := by
    intro allowed other raw rejection nonempty refused reason
    obtain ⟨named, outcome, stages, -⟩ := gated raw
    rw [stages] at refused ⊢
    cases reread : other.requireNonempty >>= fun _ =>
        named >>= fun names => other.requireAll names >>= fun _ => outcome with
    | error later => exact ⟨later, rfl⟩
    | ok value =>
      -- What the other list accepts has an outcome, so the first list stopped a column.
      obtain ⟨-, isValue, names, isNamed, -⟩ := gated_eq_ok_iff.1 reread
      rcases of_gated_eq_error nonempty refused with unnamed | failed | unknown
      · simp [isNamed] at unnamed
      · simp [isValue] at failed
      · exact absurd unknown reason

end AllowList

/-- A projection names its columns and stands for them. -/
theorem Fields.isGated : AllowList.IsGated Fields.parse id := by
  intro raw
  refine ⟨.ok (columns raw), .ok (columns raw), fun allowed => parse_eq allowed raw, ?_⟩
  intro names selected isNamed isSelected
  cases isNamed
  cases isSelected
  rfl

/-- A sort order names the first words of its parts and stands for its keys. -/
theorem Sort.isGated : AllowList.IsGated Sort.parse (·.map Key.column) := by
  intro raw
  refine ⟨.ok (((sources raw).map Part.ofText).map Part.column),
    readParts ((sources raw).map Part.ofText), fun allowed => parse_eq allowed raw, ?_⟩
  intro names keys isNamed areKeys
  cases isNamed
  exact (columns_of_reads (readParts_eq_ok_iff.1 areKeys)).symm

/-- The columns of conditions are those of the clauses they are read from. -/
theorem Filter.columns_of_mapM {clauses : List Clause} {conditions : List Condition}
    (read : clauses.mapM Condition.ofClause = .ok conditions) :
    conditions.map (·.column) = clauses.map (·.column) := by
  induction clauses generalizing conditions with
  | nil =>
    cases read
    rfl
  | cons clause clauses ih =>
    obtain ⟨condition, rest, first, others, rfl⟩ := mapM_cons_eq_ok_iff.1 read
    obtain ⟨literal, -, rfl⟩ := Condition.ofClause_eq_ok_iff.1 first
    simp [ih others]

/-- A filter names the columns of its tree and stands for what the tree describes. -/
theorem Filter.isGated : AllowList.IsGated Filter.parse Filter.columns := by
  intro raw
  by_cases blank : raw = []
  · subst blank
    refine ⟨.ok [], .ok empty, fun allowed => rfl, ?_⟩
    intro names filter isNamed isFilter
    cases isNamed
    cases isFilter
    rfl
  · refine ⟨(Tree.ofText raw).map fun tree => tree.clauses.map (·.column),
      Tree.ofText raw >>= fun tree => tree.clauses.mapM Condition.ofClause >>= fun conditions =>
        .ok ⟨conditions, tree.connectives, tree.spansFrom 0⟩, fun allowed => ?_, ?_⟩
    · simp only [parse, if_neg blank]
      cases Tree.ofText raw <;> rfl
    · intro names filter isNamed isFilter
      obtain ⟨tree, isTree, rfl⟩ := map_eq_ok_iff.1 isNamed
      obtain ⟨other, isOther, isFilter⟩ := bind_eq_ok_iff.1 isFilter
      cases isTree.symm.trans isOther
      obtain ⟨conditions, read, same⟩ := bind_eq_ok_iff.1 isFilter
      cases same
      exact columns_of_mapM read

/-- For projections, sort orders and filters an allow-list is only a gate. -/
theorem allowList_isGate :
    AllowList.IsGate Fields.parse id ∧ AllowList.IsGate Sort.parse (·.map Sort.Key.column) ∧
      AllowList.IsGate Filter.parse Filter.columns :=
  ⟨Fields.isGated.isGate, Sort.isGated.isGate, Filter.isGated.isGate⟩

end ListQuery
