import Mathlib.Order.MinMax
import ListQuery.Proofs.Filter.Descent
import ListQuery.Proofs.Filter.Tree
import ListQuery.Proofs.Filter.WellFormed

/-!
# How deeply groups are nested

The nesting of a filter is the number of groups around its most deeply nested condition. It can be
told from the spans alone, and it is the depth of the tree that describes the filter. Tokens that
spell a tree need no more room than its depth.
-/

namespace ListQuery.Filter

/-- The number of groups around the most deeply nested condition. -/
def nesting (filter : Filter) : Nat :=
  ((List.range filter.conditions.length).map
    fun index => filter.groups.countP (·.covers index)).foldr max 0

/-- The greatest of some numbers is bounded exactly if all of them are. -/
theorem foldr_max_le_iff {numbers : List Nat} {bound : Nat} :
    numbers.foldr max 0 ≤ bound ↔ ∀ number ∈ numbers, number ≤ bound := by
  induction numbers with
  | nil => simp
  | cons number numbers ih => rw [List.foldr_cons, Nat.max_le, ih, List.forall_mem_cons]

/-- A filter is nested within a bound exactly if each of its conditions is. -/
theorem nesting_le_iff {filter : Filter} {depth : Nat} :
    filter.nesting ≤ depth ↔
      ∀ index < filter.conditions.length, filter.groups.countP (·.covers index) ≤ depth := by
  rw [nesting, foldr_max_le_iff, List.forall_mem_map]
  simp

/-- One condition alone is in no group. -/
theorem nesting_single (condition : Condition) : (single condition).nesting = 0 := by
  simp [nesting, single]

/-- A group around a filter is one level more. -/
theorem nesting_enclose {filter : Filter} (nonempty : filter.conditions ≠ []) :
    filter.enclose.nesting = filter.nesting + 1 := by
  have some := List.length_pos_iff.2 nonempty
  apply eq_of_forall_ge_iff
  intro depth
  have around : ∀ index < filter.conditions.length,
      filter.enclose.groups.countP (·.covers index) =
        filter.groups.countP (·.covers index) + 1 := by
    intro index short
    have covered : Span.covers ⟨0, filter.conditions.length - 1⟩ index = true :=
      Span.covers_iff.2 (by simp only; omega)
    simp [enclose, List.countP_append, covered]
  rw [nesting_le_iff]
  cases depth with
  | zero =>
    refine iff_of_false (fun shallow => ?_) (by omega)
    have first := shallow 0 some
    rw [around 0 some] at first
    omega
  | succ depth =>
    rw [Nat.add_le_add_iff_right, nesting_le_iff]
    refine forall_congr' fun index => forall_congr' fun short => ?_
    rw [around index short, Nat.add_le_add_iff_right]

/-- Two joined filters are nested as deeply as the deeper one. -/
theorem nesting_join {depth : Nat} {left right : Filter} (connective : Connective)
    (balanced : Balanced depth left) (balancedRight : Balanced depth right) :
    (left.join connective right).nesting = max left.nesting right.nesting := by
  apply eq_of_forall_ge_iff
  intro depth
  rw [max_le_iff, nesting_le_iff, nesting_le_iff, nesting_le_iff]
  have counted : ∀ index : Int, (left.join connective right).groups.countP (·.covers index) =
      left.groups.countP (·.covers index) +
        right.groups.countP (·.covers (index - left.conditions.length)) := by
    intro index
    rw [join, List.countP_append, countP_covers_shift]
  -- The groups of one filter cover no condition of the other.
  have inLeft : ∀ index : Nat, index < left.conditions.length →
      right.groups.countP (·.covers ((index : Int) - left.conditions.length)) = 0 := by
    intro index short
    apply countP_covers_eq_zero
    intro span member
    have inside := balancedRight.inside span member
    omega
  have inRight : ∀ index : Nat,
      left.groups.countP (·.covers ((left.conditions.length + index : Nat) : Int)) = 0 := by
    intro index
    apply countP_covers_eq_zero
    intro span member
    have inside := balanced.inside span member
    omega
  have back : ∀ index : Nat,
      ((left.conditions.length + index : Nat) : Int) - left.conditions.length = index := by
    intro index
    omega
  constructor
  · intro shallow
    refine ⟨fun index short => ?_, fun index short => ?_⟩
    · have bound := shallow index (by simp [join]; omega)
      rw [counted] at bound
      omega
    · have bound := shallow (left.conditions.length + index) (by simp [join]; omega)
      rw [counted, back] at bound
      omega
  · rintro ⟨shallow, shallowRight⟩ index short
    rw [counted]
    by_cases first : index < left.conditions.length
    · rw [inLeft index first]
      exact shallow index first
    · obtain ⟨offset, rfl⟩ := Nat.exists_eq_add_of_le (Nat.le_of_not_lt first)
      rw [inRight, back, Nat.zero_add]
      exact shallowRight offset (by simpa [join] using short)

/-! ## Trees -/

/-- There is room for groups where there is less. -/
theorem Balanced.mono {depth room : Nat} {filter : Filter} (balanced : Balanced depth filter)
    (fits : depth ≤ room) : Balanced room filter :=
  { balanced with shallow := fun index => (balanced.shallow index).trans fits }

/-- A balanced filter has a condition. -/
theorem Balanced.conditions_ne_nil {depth : Nat} {filter : Filter}
    (balanced : Balanced depth filter) : filter.conditions ≠ [] := by
  rintro none
  simpa [none] using balanced.connected

/-- The filter that a tree describes is balanced at the depth of the tree. -/
theorem Tree.Describes.balanced {tree : Tree} {filter : Filter}
    (describes : tree.Describes filter) : Balanced tree.depth filter := by
  induction describes with
  | clause read => exact balanced_single _ _
  | group describes ih => exact ih.enclose
  | clauseThen read describesRest ih => exact (balanced_single _ _).join _ ih
  | groupThen describes describesRest ih ihRest =>
    exact (ih.enclose.mono (Nat.le_max_left _ _)).join _ (ihRest.mono (Nat.le_max_right _ _))

/-- The filter that a tree describes is nested as deeply as the tree. -/
theorem Tree.Describes.nesting {tree : Tree} {filter : Filter} (describes : tree.Describes filter) :
    filter.nesting = tree.depth := by
  induction describes with
  | clause read => exact nesting_single _
  | group describes ih =>
    rw [nesting_enclose describes.balanced.conditions_ne_nil, ih, Tree.depth]
  | @clauseThen clause condition connective rest later read describesRest ih =>
    have first := balanced_single rest.depth condition
    rw [nesting_join connective first describesRest.balanced, nesting_single, ih, Tree.depth]
    exact Nat.zero_max _
  | @groupThen inner rest connective filter later describes describesRest ih ihRest =>
    have left := describes.balanced.enclose.mono (Nat.le_max_left _ rest.depth)
    have right := describesRest.balanced.mono (Nat.le_max_right (inner.depth + 1) _)
    rw [nesting_join connective left right, nesting_enclose describes.balanced.conditions_ne_nil,
      ih, ihRest, Tree.depth]

namespace Tree

/-- Tokens that spell a tree spell it with any room that is not less than its depth. -/
theorem Spells.of_depth_le {room other : Nat} {tree : Tree} {tokens : List Token}
    (spelled : Spells room tree tokens) (fits : tree.depth ≤ other) :
    Spells other tree tokens := by
  induction spelled generalizing other with
  | clause spelled => exact .clause spelled
  | group opens spelled closes ih =>
    obtain ⟨less, rfl⟩ : ∃ less, other = less + 1 := ⟨other - 1, by simp [depth] at fits; omega⟩
    exact .group opens (ih (Nat.le_of_succ_le_succ fits)) closes
  | clauseThen spelled joins spelledRest ih => exact .clauseThen spelled joins (ih fits)
  | groupThen opens spelled closes joins spelledRest ihInner ihRest =>
    obtain ⟨fitsInner, fitsRest⟩ := max_le_iff.1 fits
    obtain ⟨less, rfl⟩ : ∃ less, other = less + 1 := ⟨other - 1, by omega⟩
    exact .groupThen opens (ihInner (Nat.le_of_succ_le_succ fitsInner)) closes joins
      (ihRest fitsRest)

end Tree

end ListQuery.Filter
