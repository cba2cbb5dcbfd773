import Mathlib.Data.List.Pairwise
import ListQuery.Proofs.Filter.Grammar

/-!
# Well-formed filters

A filter is well-formed if there is one connective fewer than there are conditions, if its
conditions are admissible, and if its spans are those of nested parentheses in the order in
which they close. `exists_derives_iff` says that these are the filters that the grammar writes:
spans of that kind are taken apart again from the left, at the last group that starts with the
first condition.
-/

namespace ListQuery.Filter

open Text

/-- Whether a condition lies in a group. -/
def Span.covers (span : Span) (index : Int) : Bool :=
  span.first ≤ index && index ≤ span.last

/-- All conditions of a group lie in another one. -/
def Span.IsInside (inner outer : Span) : Prop :=
  outer.first ≤ inner.first ∧ inner.last ≤ outer.last

/-- A filter that can be written: its conditions are admissible and joined by connectives, its
groups are nested or disjoint and come in the order in which they close, and no condition lies
in more than 32 of them. -/
structure WellFormed (allowed : AllowList) (filter : Filter) : Prop where
  connected : filter.connectives.length = filter.conditions.length - 1
  admissible : ∀ condition ∈ filter.conditions, condition.Admissible allowed
  inside : ∀ span ∈ filter.groups,
    0 ≤ span.first ∧ span.first ≤ span.last ∧ span.last < filter.conditions.length
  laminar : ∀ a ∈ filter.groups, ∀ b ∈ filter.groups,
    a.IsInside b ∨ b.IsInside a ∨ a.last < b.first ∨ b.last < a.first
  ordered : filter.groups.Pairwise fun a b =>
    a.last < b.last ∨ a.last = b.last ∧ b.first ≤ a.first
  shallow : ∀ index : Nat, index < filter.conditions.length →
    filter.groups.countP (·.covers index) ≤ 32

/-! ## Groups in closing order -/

/-- A group closes before another one if it is inside of that or in front of it. -/
def Span.ClosesBefore (a b : Span) : Prop :=
  a.IsInside b ∨ a.last < b.first

/-- A filter with at least one condition whose groups are written by parentheses, at most
`depth` of them around any condition. -/
structure Balanced (depth : Nat) (filter : Filter) : Prop where
  connected : filter.conditions.length = filter.connectives.length + 1
  inside : ∀ span ∈ filter.groups,
    0 ≤ span.first ∧ span.first ≤ span.last ∧ span.last < filter.conditions.length
  closing : filter.groups.Pairwise Span.ClosesBefore
  shallow : ∀ index : Int, filter.groups.countP (·.covers index) ≤ depth

/-- A group covers the conditions from its first to its last. -/
theorem Span.covers_iff {span : Span} {index : Int} :
    span.covers index = true ↔ span.first ≤ index ∧ index ≤ span.last := by
  simp [covers]

/-- Groups that do not reach a condition do not cover it. -/
theorem countP_covers_eq_zero (groups : List Span) {index : Int}
    (beside : ∀ span ∈ groups, index < span.first ∨ span.last < index) :
    groups.countP (·.covers index) = 0 := by
  apply List.countP_eq_zero.2
  intro span member
  have := beside span member
  rw [Span.covers_iff]
  omega

/-- Moved groups cover what the groups cover, moved back. -/
theorem countP_covers_shift (groups : List Span) (offset : Nat) (index : Int) :
    (groups.map (Span.shift offset)).countP (·.covers index) =
      groups.countP (·.covers (index - offset)) := by
  rw [List.countP_map]
  apply List.countP_congr
  intro span _
  simp only [Function.comp, Span.covers_iff, Span.shift]
  omega

/-- A well-formed filter with a condition is balanced. -/
theorem WellFormed.balanced {allowed : AllowList} {filter : Filter}
    (wellFormed : WellFormed allowed filter) (nonempty : filter.conditions ≠ []) :
    Balanced 32 filter where
  connected := by
    have := wellFormed.connected
    have := List.length_pos_iff.2 nonempty
    omega
  inside := wellFormed.inside
  closing := by
    apply wellFormed.ordered.imp_of_mem
    intro a b memberA memberB order
    have insideA := wellFormed.inside a memberA
    have insideB := wellFormed.inside b memberB
    have nested := wellFormed.laminar a memberA b memberB
    unfold Span.ClosesBefore
    unfold Span.IsInside at nested ⊢
    omega
  shallow := by
    intro index
    by_cases within : 0 ≤ index ∧ index < filter.conditions.length
    · obtain ⟨condition, rfl⟩ := Int.eq_ofNat_of_zero_le within.1
      exact wellFormed.shallow condition (by omega)
    · rw [countP_covers_eq_zero]
      · omega
      · intro span member
        have := wellFormed.inside span member
        omega

/-- A balanced filter with admissible conditions is well-formed. -/
theorem Balanced.wellFormed {allowed : AllowList} {filter : Filter}
    (balanced : Balanced 32 filter)
    (admissible : ∀ condition ∈ filter.conditions, condition.Admissible allowed) :
    WellFormed allowed filter where
  connected := by
    have := balanced.connected
    omega
  admissible := admissible
  inside := balanced.inside
  laminar := by
    have symmetric : Std.Symm fun a b : Span =>
        a.IsInside b ∨ b.IsInside a ∨ a.last < b.first ∨ b.last < a.first := by
      constructor
      rintro a b (isInside | isInside | before | behind)
      · exact .inr (.inl isInside)
      · exact .inl isInside
      · exact .inr (.inr (.inr before))
      · exact .inr (.inr (.inl behind))
    have closing := balanced.closing.imp (S := fun a b : Span =>
        a.IsInside b ∨ b.IsInside a ∨ a.last < b.first ∨ b.last < a.first) fun closes => by
      rcases closes with isInside | before
      · exact .inl isInside
      · exact .inr (.inr (.inl before))
    intro a memberA b memberB
    have reflexive : ∀ span ∈ filter.groups, span.IsInside span ∨ span.IsInside span ∨
        span.last < span.first ∨ span.last < span.first :=
      fun span _ => .inl ⟨Int.le_refl _, Int.le_refl _⟩
    exact closing.forall_of_forall reflexive memberA memberB
  ordered := by
    apply balanced.closing.imp_of_mem
    intro a b memberA memberB closes
    have insideB := balanced.inside b memberB
    unfold Span.ClosesBefore Span.IsInside at closes
    omega
  shallow := fun index _ => balanced.shallow index

/-! ## What the grammar writes -/

/-- One condition without groups is balanced. -/
theorem balanced_single (depth : Nat) (condition : Condition) :
    Balanced depth (single condition) where
  connected := rfl
  inside := by simp [single]
  closing := .nil
  shallow := by simp [single]

/-- A group around a balanced filter is one level deeper. -/
theorem Balanced.enclose {depth : Nat} {filter : Filter} (balanced : Balanced depth filter) :
    Balanced (depth + 1) filter.enclose where
  connected := balanced.connected
  inside := by
    have connected := balanced.connected
    intro span member
    rcases List.mem_append.1 member with inner | outer
    · exact balanced.inside span inner
    · cases List.mem_singleton.1 outer
      simp [Filter.enclose]
      omega
  closing := by
    refine List.pairwise_append.2 ⟨balanced.closing, List.pairwise_singleton _ _, ?_⟩
    intro span member outer isOuter
    cases List.mem_singleton.1 isOuter
    have inside := balanced.inside span member
    refine .inl ⟨inside.1, ?_⟩
    simp
    omega
  shallow := by
    intro index
    have shallow := balanced.shallow index
    simp only [Filter.enclose, List.countP_append, List.countP_singleton]
    split <;> omega

/-- Two balanced filters with a connective between them are balanced. -/
theorem Balanced.join {depth : Nat} {left right : Filter} (balanced : Balanced depth left)
    (connective : Connective) (balancedRight : Balanced depth right) :
    Balanced depth (left.join connective right) where
  connected := by
    simp [Filter.join, balanced.connected, balancedRight.connected]
    omega
  inside := by
    intro span member
    simp only [Filter.join, List.length_append] at member ⊢
    rcases List.mem_append.1 member with inLeft | inRight
    · have inside := balanced.inside span inLeft
      omega
    · obtain ⟨moved, memberMoved, rfl⟩ := List.mem_map.1 inRight
      have inside := balancedRight.inside moved memberMoved
      simp [Span.shift]
      omega
  closing := by
    refine List.pairwise_append.2 ⟨balanced.closing, ?_, ?_⟩
    · refine List.pairwise_map.2 (balancedRight.closing.imp fun closes => ?_)
      simp only [Span.ClosesBefore, Span.IsInside, Span.shift] at closes ⊢
      omega
    · intro span member other memberOther
      obtain ⟨moved, memberMoved, rfl⟩ := List.mem_map.1 memberOther
      have inside := balanced.inside span member
      have insideMoved := balancedRight.inside moved memberMoved
      refine .inr ?_
      simp [Span.shift]
      omega
  shallow := by
    intro index
    simp only [Filter.join, List.countP_append, countP_covers_shift]
    by_cases inLeft : index < left.conditions.length
    · rw [countP_covers_eq_zero right.groups]
      · exact balanced.shallow index
      · intro span member
        have inside := balancedRight.inside span member
        omega
    · rw [countP_covers_eq_zero left.groups, Nat.zero_add]
      · exact balancedRight.shallow _
      · intro span member
        have inside := balanced.inside span member
        omega

/-- The grammar writes balanced filters only. -/
theorem Derives.balanced {allowed : AllowList} {phrase : Phrase} {depth : Nat} {body : Text}
    {filter : Filter} (derives : Derives allowed phrase depth body filter) :
    Balanced depth filter := by
  induction derives with
  | condition admissible gapBefore gapAfter => exact balanced_single _ _
  | group gapBefore expression gapAfter ih => exact ih.enclose
  | alone operand ih => exact ih
  | chain operand gapBefore spacedBefore isKeyword gapAfter spacedAfter expression ih ihRest =>
    exact ih.join _ ihRest

/-- The conditions that the grammar writes are admissible. -/
theorem Derives.admissible {allowed : AllowList} {phrase : Phrase} {depth : Nat} {body : Text}
    {filter : Filter} (derives : Derives allowed phrase depth body filter) :
    ∀ condition ∈ filter.conditions, condition.Admissible allowed := by
  induction derives with
  | condition admissible gapBefore gapAfter => simpa [single] using admissible
  | group gapBefore expression gapAfter ih => exact ih
  | alone operand ih => exact ih
  | chain operand gapBefore spacedBefore isKeyword gapAfter spacedAfter expression ih ihRest =>
    intro condition member
    exact (List.mem_append.1 member).elim (ih condition) (ihRest condition)

/-! ## Taking balanced filters apart -/

/-- A span in a filter that its first conditions are taken from. -/
def Span.back (offset : Nat) (span : Span) : Span :=
  ⟨span.first - offset, span.last - offset⟩

/-- A span moves back to where it was. -/
theorem Span.shift_back (offset : Nat) (span : Span) : (span.back offset).shift offset = span := by
  simp [back, shift]

/-- What follows a connective in a balanced filter is balanced, if its groups start there. -/
theorem Balanced.of_join {depth : Nat} {left right : Filter} {connective : Connective}
    (balanced : Balanced depth (left.join connective right))
    (connected : left.conditions.length = left.connectives.length + 1)
    (start : ∀ span ∈ right.groups, 0 ≤ span.first) : Balanced depth right where
  connected := by
    have whole := balanced.connected
    simp [Filter.join, connected] at whole
    omega
  inside := by
    intro span member
    have inside := balanced.inside (span.shift left.conditions.length)
      (List.mem_append_right _ (List.mem_map_of_mem member))
    have starts := start span member
    simp [Filter.join, Span.shift] at inside
    omega
  closing := by
    have closing := List.pairwise_map.1 (List.pairwise_append.1 balanced.closing).2.1
    apply closing.imp
    intro closes
    simp only [Span.ClosesBefore, Span.IsInside, Span.shift] at closes ⊢
    omega
  shallow := by
    intro index
    have shallow := balanced.shallow (index + left.conditions.length)
    simp only [Filter.join, List.countP_append, countP_covers_shift] at shallow
    rw [Int.add_sub_cancel] at shallow
    omega

/-- The first conditions of a filter and the connectives between them, with some groups. -/
def start (filter : Filter) (count : Nat) (groups : List Span) : Filter :=
  ⟨filter.conditions.take count, filter.connectives.take (count - 1), groups⟩

/-- A balanced filter is cut where no group goes across. -/
theorem Balanced.exists_join {depth cut : Nat} {filter : Filter} {before after : List Span}
    (balanced : Balanced depth filter) (groups : filter.groups = before ++ after)
    (positive : 0 < cut) (short : cut < filter.conditions.length)
    (beyond : ∀ span ∈ after, (cut : Int) ≤ span.first) :
    ∃ connective right, Balanced depth right ∧
      filter = (filter.start cut before).join connective right := by
  have connected := balanced.connected
  have bound : cut - 1 < filter.connectives.length := by omega
  have same : filter = (filter.start cut before).join filter.connectives[cut - 1]
      ⟨filter.conditions.drop cut, filter.connectives.drop cut, after.map (Span.back cut)⟩ := by
    have parts : filter.connectives.take (cut - 1) ++
        filter.connectives[cut - 1] :: filter.connectives.drop cut = filter.connectives := by
      have next : cut - 1 + 1 = cut := by omega
      have behind := List.drop_eq_getElem_cons bound
      rw [next] at behind
      rw [← behind, List.take_append_drop]
    have moved : (after.map (Span.back cut)).map
        (Span.shift (filter.conditions.take cut).length) = after := by
      rw [List.length_take, Nat.min_eq_left (by omega), List.map_map]
      exact List.map_id'' (Span.shift_back cut) after
    rw [Filter.join, start, parts, moved, List.take_append_drop, ← groups]
  refine ⟨_, _, Balanced.of_join (same ▸ balanced) ?_ ?_, same⟩
  · simp [start]
    omega
  · intro span member
    obtain ⟨moved, memberMoved, rfl⟩ := List.mem_map.1 member
    have starts := beyond moved memberMoved
    simp [Span.back]
    omega

/-- A filter of one operand: a condition, or a group around a balanced filter. -/
inductive IsOperand : (depth : Nat) → Filter → Prop where
  | single {depth : Nat} (condition : Condition) : IsOperand depth (single condition)
  | enclose {depth : Nat} {inner : Filter} (balanced : Balanced depth inner) :
      IsOperand (depth + 1) inner.enclose

/-- A list with a member of a kind has a last one. -/
theorem exists_last {α : Type} {holds : α → Prop} {list : List α} (found : ∃ a ∈ list, holds a) :
    ∃ before a after, list = before ++ a :: after ∧ holds a ∧ ∀ b ∈ after, ¬ holds b := by
  induction list with
  | nil => simp at found
  | cons first rest ih =>
    by_cases later : ∃ a ∈ rest, holds a
    · obtain ⟨before, a, after, rfl, isLast⟩ := ih later
      exact ⟨first :: before, a, after, rfl, isLast⟩
    · obtain ⟨a, member, isFound⟩ := found
      rcases List.mem_cons.1 member with rfl | inRest
      · exact ⟨[], a, rest, rfl, isFound, fun b memberB holdsB => later ⟨b, memberB, holdsB⟩⟩
      · exact absurd ⟨a, inRest, isFound⟩ later

/-- What closes before a group that starts with the first condition lies inside of it. -/
theorem Balanced.enclosed {depth : Nat} {filter : Filter} {before after : List Span}
    {group span : Span} (balanced : Balanced depth filter)
    (groups : filter.groups = before ++ group :: after) (opens : group.first = 0)
    (member : span ∈ before) :
    0 ≤ span.first ∧ span.first ≤ span.last ∧ span.last ≤ group.last := by
  have inside := balanced.inside span (by simp [groups, member])
  have closing := balanced.closing
  rw [groups] at closing
  have closes := (List.pairwise_append.1 closing).2.2 span member group List.mem_cons_self
  unfold Span.ClosesBefore Span.IsInside at closes
  omega

/-- What closes after the last group that starts with the first condition lies behind it. -/
theorem Balanced.beyond {depth : Nat} {filter : Filter} {before after : List Span}
    {group span : Span} (balanced : Balanced depth filter)
    (groups : filter.groups = before ++ group :: after) (opens : group.first = 0)
    (member : span ∈ after) (notFirst : span.first ≠ 0) : group.last < span.first := by
  have inside := balanced.inside span (by simp [groups, member])
  have closing := balanced.closing
  rw [groups] at closing
  have closes := (List.pairwise_cons.1 (List.pairwise_append.1 closing).2.1).1 span member
  unfold Span.ClosesBefore Span.IsInside at closes
  omega

/-- The conditions of a group and the groups inside are a balanced filter, one level less
deep. -/
theorem Balanced.inner {depth : Nat} {filter : Filter} {before after : List Span} {group : Span}
    (balanced : Balanced depth filter) (groups : filter.groups = before ++ group :: after)
    (opens : group.first = 0) :
    ∃ room, depth = room + 1 ∧
      Balanced room (filter.start (group.last.toNat + 1) before) := by
  have inside := balanced.inside group (by simp [groups])
  have deeper : ∀ index, group.covers index = true →
      before.countP (·.covers index) + 1 ≤ depth := by
    intro index covered
    have shallow := balanced.shallow index
    simp only [groups, List.countP_append, List.countP_cons, covered, if_true] at shallow
    omega
  obtain ⟨room, rfl⟩ : ∃ room, depth = room + 1 := by
    have positive := deeper 0 (Span.covers_iff.2 (by omega))
    exact ⟨depth - 1, by omega⟩
  refine ⟨room, rfl, ?_, ?_, ?_, ?_⟩
  · have connected := balanced.connected
    simp [start]
    omega
  · intro span member
    have enclosed := balanced.enclosed groups opens member
    simp [start]
    omega
  · have closing := balanced.closing
    rw [groups] at closing
    exact (List.pairwise_append.1 closing).1
  · intro index
    by_cases covered : group.covers index = true
    · have bound := deeper index covered
      simp only [start]
      omega
    · rw [Span.covers_iff] at covered
      have outside : before.countP (·.covers index) = 0 := by
        apply countP_covers_eq_zero
        intro span member
        have enclosed := balanced.enclosed groups opens member
        omega
      simp [start, outside]

/-- The first conditions of a filter and a group around them are a group. -/
theorem start_group {filter : Filter} {group : Span} (before : List Span)
    (opens : group.first = 0) (ends : 0 ≤ group.last)
    (short : group.last < filter.conditions.length) :
    filter.start (group.last.toNat + 1) (before ++ [group]) =
      (filter.start (group.last.toNat + 1) before).enclose := by
  have same : group = ⟨0, (filter.conditions.take (group.last.toNat + 1)).length - 1⟩ := by
    cases group
    simp at *
    omega
  simp only [start, enclose]
  rw [← same]

/-- A filter is one operand, or that operand joined to a balanced filter. -/
def BeginsWith (depth : Nat) (filter left : Filter) : Prop :=
  filter = left ∨ ∃ connective right, Balanced depth right ∧ filter = left.join connective right

/-- A balanced filter with a group around its first condition begins with the last such group,
which encloses the others. -/
theorem Balanced.beginsWith_group {depth : Nat} {filter : Filter}
    (balanced : Balanced depth filter) (opens : ∃ span ∈ filter.groups, span.first = 0) :
    ∃ left, IsOperand depth left ∧ BeginsWith depth filter left := by
  have connected := balanced.connected
  obtain ⟨before, group, after, groups, isFirst, isLast⟩ := exists_last opens
  have inside := balanced.inside group (by simp [groups])
  obtain ⟨room, rfl, balancedInner⟩ := balanced.inner groups isFirst
  have same := start_group before isFirst (by omega) inside.2.2
  refine ⟨_, .enclose balancedInner, ?_⟩
  rw [← same]
  by_cases whole : group.last.toNat + 1 = filter.conditions.length
  · left
    have none : after = [] := List.eq_nil_iff_forall_not_mem.2 fun span member => by
      have insideSpan := balanced.inside span (by simp [groups, member])
      have behind := balanced.beyond groups isFirst member (isLast span member)
      omega
    subst none
    have allConnectives : group.last.toNat + 1 - 1 = filter.connectives.length := by omega
    rw [start, whole, ← groups, List.take_length, ← whole, allConnectives, List.take_length]
  · right
    have split : filter.groups = (before ++ [group]) ++ after := by simp [groups]
    refine balanced.exists_join split (by omega) (by omega) fun span member => ?_
    have behind := balanced.beyond groups isFirst member (isLast span member)
    omega

/-- A balanced filter without a group around its first condition begins with that condition. -/
theorem Balanced.beginsWith_condition {depth : Nat} {filter : Filter}
    (balanced : Balanced depth filter) (plain : ∀ span ∈ filter.groups, span.first ≠ 0) :
    ∃ left, IsOperand depth left ∧ BeginsWith depth filter left := by
  have connected := balanced.connected
  have later : ∀ span ∈ filter.groups, 1 ≤ span.first := by
    intro span member
    have inside := balanced.inside span member
    have notFirst := plain span member
    omega
  obtain ⟨condition, others, conditions⟩ :
      ∃ condition others, filter.conditions = condition :: others :=
    List.exists_cons_of_length_eq_add_one connected
  refine ⟨_, .single condition, ?_⟩
  by_cases alone : others = []
  · left
    have noGroups : filter.groups = [] := List.eq_nil_iff_forall_not_mem.2 fun span member => by
      have inside := balanced.inside span member
      have starts := later span member
      simp [conditions, alone] at inside
      omega
    have noConnectives : filter.connectives = [] := by
      simpa [conditions, alone] using connected
    cases filter
    simp_all [single]
  · right
    have more := List.length_pos_iff.2 alone
    have first : filter.start 1 [] = single condition := by simp [start, single, conditions]
    rw [← first]
    exact balanced.exists_join (List.nil_append _).symm (by omega) (by simp [conditions, more])
      (by simpa using later)

/-- A balanced filter begins with an operand. -/
theorem Balanced.exists_operand {depth : Nat} {filter : Filter}
    (balanced : Balanced depth filter) :
    ∃ left, IsOperand depth left ∧ BeginsWith depth filter left := by
  by_cases opens : ∃ span ∈ filter.groups, span.first = 0
  · exact balanced.beginsWith_group opens
  · apply balanced.beginsWith_condition
    intro span member isFirst
    exact opens ⟨span, member, isFirst⟩

/-- Every balanced filter with admissible conditions is written by a text of the grammar. -/
theorem Balanced.exists_derives {allowed : AllowList} {depth : Nat} {filter : Filter}
    (balanced : Balanced depth filter)
    (admissible : ∀ condition ∈ filter.conditions, condition.Admissible allowed) :
    ∃ body, Derives allowed .expression depth body filter := by
  -- Each step takes away a condition or a group.
  induction size : filter.conditions.length + filter.groups.length using Nat.strongRecOn
    generalizing depth filter with
  | ind size ih =>
    subst size
    obtain ⟨left, isOperand, parts⟩ := balanced.exists_operand
    have smaller : left.conditions.length ≤ filter.conditions.length ∧
        left.groups.length ≤ filter.groups.length ∧
        ∀ condition ∈ left.conditions, condition.Admissible allowed := by
      rcases parts with rfl | ⟨connective, right, -, rfl⟩
      · exact ⟨Nat.le_refl _, Nat.le_refl _, admissible⟩
      · simp [Filter.join] at admissible ⊢
        exact fun condition member => admissible condition (.inl member)
    obtain ⟨first, operand⟩ : ∃ first, Derives allowed .operand depth first left := by
      cases isOperand with
      | single condition =>
        exact ⟨_, .condition (smaller.2.2 condition (by simp [single])) within_nil within_nil⟩
      | @enclose room inner balancedInner =>
        simp [Filter.enclose] at smaller
        obtain ⟨body, expression⟩ := ih _ (by omega) balancedInner smaller.2.2 rfl
        exact ⟨_, .group within_nil expression within_nil⟩
    rcases parts with rfl | ⟨connective, right, balancedRight, rfl⟩
    · exact ⟨first, .alone operand⟩
    · have someLeft := operand.balanced.connected
      have admissibleRight : ∀ condition ∈ right.conditions, condition.Admissible allowed :=
        fun condition member => admissible condition (List.mem_append_right _ member)
      obtain ⟨later, expression⟩ :=
        ih _ (by simp [Filter.join]; omega) balancedRight admissibleRight rfl
      have blank : Within isAsciiBlank [.scalar ' '] := within_cons.2 ⟨by decide, within_nil⟩
      exact ⟨_, .chain operand blank (by simp) connective.isKeyword_keyword blank (by simp)
        expression⟩

/-- The grammar writes exactly the well-formed filters with a condition. -/
theorem exists_derives_iff {allowed : AllowList} {filter : Filter} :
    (∃ body, Derives allowed .expression 32 body filter) ↔
      WellFormed allowed filter ∧ filter.conditions ≠ [] := by
  constructor
  · rintro ⟨body, derives⟩
    have connected := derives.balanced.connected
    refine ⟨derives.balanced.wellFormed derives.admissible, List.length_pos_iff.1 (by omega)⟩
  · rintro ⟨wellFormed, nonempty⟩
    exact (wellFormed.balanced nonempty).exists_derives wellFormed.admissible

end ListQuery.Filter
