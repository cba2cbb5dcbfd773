import ListQuery.Filter.Parser
import ListQuery.Proofs.AllowList
import ListQuery.Proofs.Filter.Grammar

/-!
# Trees and the filters they describe

A tree describes the filter with its clauses, connectives and spans. Constructor by constructor
this is what `single`, `enclose` and `join` put together, whatever the index of the first clause.
-/

namespace ListQuery.Filter

namespace Tree

/-- A tree describes a filter, whatever columns are allowed. -/
inductive Describes : Tree → Filter → Prop where
  | clause {clause : Clause} {condition : Condition}
      (read : Condition.ofClause clause = .ok condition) :
      Describes (.clause clause) (single condition)
  | group {inner : Tree} {filter : Filter} (describes : Describes inner filter) :
      Describes (.group inner) filter.enclose
  | clauseThen {clause : Clause} {condition : Condition} {connective : Connective} {rest : Tree}
      {later : Filter} (read : Condition.ofClause clause = .ok condition)
      (describesRest : Describes rest later) :
      Describes (.clauseThen clause connective rest) ((single condition).join connective later)
  | groupThen {inner rest : Tree} {connective : Connective} {filter later : Filter}
      (describes : Describes inner filter) (describesRest : Describes rest later) :
      Describes (.groupThen inner connective rest) (filter.enclose.join connective later)

/-- Spans move along with the index of the first clause. -/
theorem spansFrom_add (offset first : Nat) (tree : Tree) :
    tree.spansFrom (first + offset) = (tree.spansFrom first).map (Span.shift offset) := by
  induction tree generalizing first with
  | clause => rfl
  | group inner ih =>
    simp [spansFrom, ih, spanAt, Span.shift]
    omega
  | clauseThen clause connective rest ih =>
    rw [spansFrom, spansFrom, ← ih]
    congr 1
    omega
  | groupThen inner connective rest ihInner ihRest =>
    rw [spansFrom, spansFrom, List.map_append, List.map_cons, ← ihInner, ← ihRest]
    have same : first + offset + inner.clauses.length = first + inner.clauses.length + offset := by
      omega
    rw [same]
    simp [spanAt, Span.shift]
    omega

/-- A tree describes the filter of its clauses, its connectives and its spans. -/
theorem describes_of_mapM {tree : Tree} {conditions : List Condition}
    (read : tree.clauses.mapM Condition.ofClause = .ok conditions) :
    tree.Describes ⟨conditions, tree.connectives, tree.spansFrom 0⟩ := by
  induction tree generalizing conditions with
  | clause clause =>
    obtain ⟨condition, _, isCondition, rest, rfl⟩ := mapM_cons_eq_ok_iff.1 read
    cases rest
    exact .clause isCondition
  | group inner ih =>
    have readInner : inner.clauses.mapM Condition.ofClause = .ok conditions := read
    have described := Describes.group (ih readInner)
    rw [enclose, length_of_mapM readInner] at described
    simpa [connectives, spansFrom, spanAt] using described
  | clauseThen clause connective rest ih =>
    obtain ⟨condition, others, isCondition, readOthers, rfl⟩ := mapM_cons_eq_ok_iff.1 read
    have described : (Tree.clauseThen clause connective rest).Describes _ :=
      .clauseThen isCondition (ih readOthers)
    simpa [join, single, connectives, spansFrom, ← spansFrom_add] using described
  | groupThen inner connective rest ihInner ihRest =>
    obtain ⟨left, right, readLeft, readRight, rfl⟩ := mapM_append_eq_ok_iff.1 read
    have described : (Tree.groupThen inner connective rest).Describes _ :=
      .groupThen (ihInner readLeft) (ihRest readRight)
    rw [enclose, join, length_of_mapM readLeft, ← spansFrom_add] at described
    simpa [connectives, spansFrom, spanAt] using described

/-- The filter that a tree describes holds what is read from its clauses, its connectives and
its spans. -/
theorem Describes.eq {tree : Tree} {filter : Filter} (describes : tree.Describes filter) :
    tree.clauses.mapM Condition.ofClause = .ok filter.conditions ∧
      filter = ⟨filter.conditions, tree.connectives, tree.spansFrom 0⟩ := by
  induction describes with
  | clause read =>
    exact ⟨mapM_cons_eq_ok_iff.2 ⟨_, [], read, rfl, rfl⟩, rfl⟩
  | group describes ih =>
    obtain ⟨read, same⟩ := ih
    refine ⟨read, ?_⟩
    rw [enclose, length_of_mapM read, same]
    simp [connectives, spansFrom, spanAt]
  | clauseThen read describesRest ih =>
    obtain ⟨readRest, same⟩ := ih
    refine ⟨mapM_cons_eq_ok_iff.2 ⟨_, _, read, readRest, rfl⟩, ?_⟩
    rw [same]
    simp [join, single, connectives, spansFrom, ← spansFrom_add]
  | groupThen describes describesRest ih ihRest =>
    obtain ⟨read, same⟩ := ih
    obtain ⟨readRest, sameRest⟩ := ihRest
    refine ⟨mapM_append_eq_ok_iff.2 ⟨_, _, read, readRest, rfl⟩, ?_⟩
    rw [enclose, join, length_of_mapM read, same, sameRest]
    simp [connectives, spansFrom, spanAt, ← spansFrom_add]

end Tree

/-- A filter is made of a tree exactly if its columns are allowed and the tree describes it. -/
theorem ofTree_eq_ok_iff {allowed : AllowList} {tree : Tree} {filter : Filter} :
    ofTree allowed tree = .ok filter ↔
      (∀ clause ∈ tree.clauses, clause.column ∈ allowed) ∧ tree.Describes filter := by
  rw [ofTree, bind_eq_ok_iff]
  constructor
  · rintro ⟨_, listed, read⟩
    obtain ⟨conditions, readConditions, same⟩ := bind_eq_ok_iff.1 read
    cases same
    refine ⟨?_, Tree.describes_of_mapM readConditions⟩
    simpa using AllowList.requireAll_eq_ok_iff.1 listed
  · rintro ⟨listed, describes⟩
    obtain ⟨read, same⟩ := describes.eq
    refine ⟨(), AllowList.requireAll_eq_ok_iff.2 (by simpa using listed), ?_⟩
    exact bind_eq_ok_iff.2 ⟨_, read, congrArg Except.ok same.symm⟩

/-- A nonempty filter text is read in three stages. -/
theorem parse_of_ne_nil {allowed : AllowList} {raw : Text} (columns : allowed ≠ [])
    (nonempty : raw ≠ []) :
    parse allowed raw = (tokenize raw >>= Tree.ofTokens raw) >>= ofTree allowed := by
  rw [parse, AllowList.requireNonempty_of_ne_nil columns]
  simp [nonempty, Tree.ofText, bind, Except.bind]

/-- A nonempty filter text is read exactly if its tokens make up a tree that is accepted. -/
theorem parse_eq_ok_iff_tree {allowed : AllowList} {raw : Text} {filter : Filter}
    (columns : allowed ≠ []) (nonempty : raw ≠ []) :
    parse allowed raw = .ok filter ↔ ∃ tokens tree, tokenize raw = .ok tokens ∧
      Tree.ofTokens raw tokens = .ok tree ∧
      (∀ clause ∈ tree.clauses, clause.column ∈ allowed) ∧ tree.Describes filter := by
  rw [parse_of_ne_nil columns nonempty]
  simp only [bind_eq_ok_iff, ofTree_eq_ok_iff]
  constructor
  · rintro ⟨tree, ⟨tokens, cut, read⟩, listed, describes⟩
    exact ⟨tokens, tree, cut, read, listed, describes⟩
  · rintro ⟨tokens, tree, cut, read, listed, describes⟩
    exact ⟨tree, ⟨tokens, cut, read⟩, listed, describes⟩

end ListQuery.Filter
