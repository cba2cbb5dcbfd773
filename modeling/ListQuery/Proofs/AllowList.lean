import ListQuery.AllowList
import ListQuery.Proofs.Except

/-!
# Passing an allow-list

Columns pass an allow-list exactly if all of them are in it, and a list without columns passes
none.
-/

namespace ListQuery.AllowList

variable {allowed : AllowList}

/-- A list is accepted if it has a column. -/
theorem requireNonempty_eq_ok_iff : allowed.requireNonempty = .ok () ↔ allowed ≠ [] := by
  unfold requireNonempty
  split <;> simp_all

/-- A list that has a column is accepted. -/
theorem requireNonempty_of_ne_nil (nonempty : allowed ≠ []) :
    allowed.requireNonempty = .ok () :=
  requireNonempty_eq_ok_iff.2 nonempty

/-- A column passes if it is in the list. -/
theorem require_eq_ok_iff {column : Text} : allowed.require column = .ok () ↔ column ∈ allowed := by
  unfold require
  split <;> simp_all

/-- Columns pass if they are all in the list. -/
theorem requireAll_eq_ok_iff {columns : List Text} :
    allowed.requireAll columns = .ok () ↔ ∀ column ∈ columns, column ∈ allowed := by
  induction columns with
  | nil => simp [requireAll]
  | cons column rest ih =>
    rw [requireAll, bind_eq_ok_iff, List.forall_mem_cons, ← ih, ← require_eq_ok_iff]
    exact ⟨fun ⟨_, first, others⟩ => ⟨first, others⟩, fun ⟨first, others⟩ => ⟨(), first, others⟩⟩

end ListQuery.AllowList
