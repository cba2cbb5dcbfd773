import Mathlib.Data.List.Forall2
import ListQuery.Text.Basic

/-!
# Cutting and joining

Cutting a text at a separator and joining parts with it are inverse to each other, as long as
there is a part and no part holds the separator.
-/

namespace ListQuery.Text

/-- Cutting a text is the split of the standard library. -/
theorem pieces_eq_splitOn (separator : CodePoint) (text : Text) :
    pieces separator text = text.splitOn separator := by
  induction text with
  | nil => rfl
  | cons c rest ih => simp only [pieces, List.splitOn_cons_eq_if_modifyHead, beq_iff_eq, ih]

/-- The parts of a text, joined, are the text. -/
theorem join_pieces (separator : CodePoint) (text : Text) :
    join [separator] (pieces separator text) = text := by
  rw [join, pieces_eq_splitOn, List.intercalate_splitOn]

/-- Parts without the separator are the parts of what they join to. -/
theorem pieces_join {separator : CodePoint} {parts : List Text} (nonempty : parts ≠ [])
    (free : ∀ part ∈ parts, separator ∉ part) :
    pieces separator (join [separator] parts) = parts := by
  rw [join, pieces_eq_splitOn, List.splitOn_intercalate separator free nonempty]

/-- A separator that ends in a gap puts the gap in front of all parts but the first. -/
theorem join_spaced (separator : CodePoint) (gap first : Text) (rest : List Text) :
    join (separator :: gap) (first :: rest) = join [separator] (first :: rest.map (gap ++ ·)) := by
  induction rest generalizing first with
  | nil => simp [join]
  | cons next rest ih =>
    have behind := ih next
    simp only [join, List.map_cons, List.intercalate_cons_cons] at behind ⊢
    rw [behind]
    cases rest with
    | nil => simp
    | cons other rest => simp [List.intercalate_cons_cons]

/-- A text has one part more than separators. -/
theorem length_pieces (separator : CodePoint) (text : Text) :
    (pieces separator text).length = text.count separator + 1 := by
  induction text with
  | nil => rfl
  | cons c rest ih =>
    rw [pieces]
    split
    · rename_i same
      simp [ih, same]
    · rename_i other
      simp [ih, other]

/-- No part of a text holds the separator. -/
theorem not_mem_of_mem_pieces {separator : CodePoint} {text part : Text}
    (member : part ∈ pieces separator text) : separator ∉ part := by
  induction text generalizing part with
  | nil =>
    cases List.mem_singleton.1 member
    exact List.not_mem_nil
  | cons c rest ih =>
    rw [pieces] at member
    split at member
    · rcases List.mem_cons.1 member with rfl | later
      · exact List.not_mem_nil
      · exact ih later
    · rename_i other
      obtain ⟨head, tail, parts⟩ := List.exists_cons_of_ne_nil (pieces_ne_nil separator rest)
      rw [parts] at member ih
      rcases List.mem_cons.1 member with rfl | later
      · exact List.not_mem_cons_of_ne_of_not_mem (Ne.symm other) (ih List.mem_cons_self)
      · exact ih (List.mem_cons_of_mem head later)

/-- Parts that are no longer join to a text that is no longer. -/
theorem length_join_le {separator : Text} {shorter longer : List Text}
    (le : List.Forall₂ (fun a b => a.length ≤ b.length) shorter longer) :
    (join separator shorter).length ≤ (join separator longer).length := by
  induction le with
  | nil => exact Nat.le_refl _
  | @cons a b shorter longer first rest ih =>
    cases rest with
    | nil => simpa [join] using first
    | cons next others =>
      simp only [join, List.intercalate_cons_cons, List.length_append] at ih ⊢
      omega

/-- Parts that are not all empty join to a text that is not empty. -/
theorem join_ne_nil {separator part : Text} {parts : List Text} (member : part ∈ parts)
    (nonempty : part ≠ []) : join separator parts ≠ [] := by
  induction parts with
  | nil => simp at member
  | cons first rest ih =>
    cases rest with
    | nil =>
      cases List.mem_singleton.1 member
      simpa [join] using nonempty
    | cons next others =>
      rw [join, List.intercalate_cons_cons]
      rcases List.mem_cons.1 member with rfl | later
      · simp [nonempty]
      · have behind := ih later
        rw [join] at behind
        simp [behind]

end ListQuery.Text
