import Mathlib.Data.List.Lex
import Mathlib.Data.List.Nodup
import ListQuery.Text.Basic

/-!
# The order of texts

The order of texts by code point is the lexicographic one of their numbers. Sorting the distinct
members of a list keeps its members and brings them into strictly increasing order.
-/

namespace ListQuery.Text

/-- A text stands before another one in code point order. -/
def Precedes (left right : Text) : Prop :=
  List.Lex (fun a b => a.toNat < b.toNat) left right

/-- Texts are compared by this order. -/
theorem comesBefore_iff {left right : Text} :
    comesBefore left right = true ↔ left = right ∨ Precedes left right := by
  unfold Precedes
  induction left generalizing right with
  | nil => cases right <;> simp [comesBefore]
  | cons a left ih =>
    cases right with
    | nil => simp [comesBefore]
    | cons b right =>
      rw [comesBefore, Bool.or_eq_true, Bool.and_eq_true, decide_eq_true_eq, beq_iff_eq, ih,
        List.cons_lex_cons_iff, List.cons.injEq]
      tauto

/-- A text that stands before another one stands before all that follow it. -/
theorem Precedes.trans {first second third : Text} (front : Precedes first second)
    (back : Precedes second third) : Precedes first third :=
  List.lex_trans Nat.lt_trans front back

/-- One of two different texts stands before the other. -/
theorem eq_or_precedes (left right : Text) :
    left = right ∨ Precedes left right ∨ Precedes right left := by
  have numbers : Std.Trichotomous fun a b : CodePoint => a.toNat < b.toNat :=
    ⟨fun a b below above => CodePoint.toNat_inj.1 (by omega)⟩
  by_contra apart
  rw [not_or, not_or] at apart
  exact apart.1 ((List.Lex.trichotomous _).trichotomous left right apart.2.1 apart.2.2)

/-- Sorting the distinct members of a list keeps its members. -/
@[simp] theorem mem_sortedDistinct {text : Text} {texts : List Text} :
    text ∈ sortedDistinct texts ↔ text ∈ texts := by
  rw [sortedDistinct, List.mem_mergeSort, List.mem_eraseDups]

/-- The distinct members of a list are not repeated. -/
theorem nodup_eraseDups (texts : List Text) : texts.eraseDups.Nodup := by
  match texts with
  | [] => exact List.nodup_nil
  | first :: rest =>
    rw [List.eraseDups_cons]
    refine List.nodup_cons.2 ⟨by simp, nodup_eraseDups _⟩
termination_by texts.length
decreasing_by
  have := List.length_filter_le (fun text => !text == first) rest
  simp only [List.length_cons]
  omega

/-- The sorted members are in strictly increasing order. -/
theorem pairwise_sortedDistinct (texts : List Text) :
    (sortedDistinct texts).Pairwise Precedes := by
  have ordered : (sortedDistinct texts).Pairwise (comesBefore · ·) := by
    apply List.pairwise_mergeSort
    · intro first second third front back
      rw [comesBefore_iff] at front back ⊢
      rcases front with rfl | front
      · exact back
      · rcases back with rfl | back
        · exact .inr front
        · exact .inr (front.trans back)
    · intro left right
      rw [Bool.or_eq_true, comesBefore_iff, comesBefore_iff]
      have cases := eq_or_precedes left right
      tauto
  have distinct : (sortedDistinct texts).Nodup :=
    (List.mergeSort_perm _ _).nodup_iff.2 (nodup_eraseDups texts)
  exact ordered.imp₂ (fun left right before other => (comesBefore_iff.1 before).resolve_left other)
    distinct

end ListQuery.Text
