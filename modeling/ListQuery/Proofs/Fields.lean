import ListQuery.Fields
import ListQuery.Proofs.AllowList
import ListQuery.Proofs.Text.Pieces
import ListQuery.Proofs.Text.Trim

/-!
# Projections written back

The columns of a projection do not depend on the allow-list, which only stops columns that it
does not hold. Written with a comma between them, they are read as the same columns again, unless
a column is empty.
-/

namespace ListQuery.Fields

open Text

/-- The columns of a projection pass the allow-list or are refused; nothing else happens. -/
theorem parse_eq (allowed : AllowList) (raw : Text) :
    parse allowed raw = allowed.requireNonempty >>= fun _ =>
      allowed.requireAll (columns raw) >>= fun _ => .ok (columns raw) := by
  unfold parse columns
  split
  · simp [AllowList.requireAll, bind, Except.bind, pure, Except.pure]
  · rfl

/-- A projection is read as its columns, all of which have to be allowed. -/
theorem parse_eq_ok_iff {allowed : AllowList} {raw : Text} {selected : List Text} :
    parse allowed raw = .ok selected ↔ allowed ≠ [] ∧ selected = columns raw ∧
      ∀ column ∈ selected, column ∈ allowed := by
  rw [parse_eq]
  constructor
  · intro read
    obtain ⟨_, passed, read⟩ := bind_eq_ok_iff.1 read
    obtain ⟨_, listed, same⟩ := bind_eq_ok_iff.1 read
    cases same
    exact ⟨AllowList.requireNonempty_eq_ok_iff.1 passed, rfl,
      AllowList.requireAll_eq_ok_iff.1 listed⟩
  · rintro ⟨nonempty, rfl, listed⟩
    refine bind_eq_ok_iff.2 ⟨(), AllowList.requireNonempty_of_ne_nil nonempty, ?_⟩
    exact bind_eq_ok_iff.2 ⟨(), AllowList.requireAll_eq_ok_iff.2 listed, rfl⟩

/-- The text of a projection: its columns, separated by commas. -/
def text (selected : List Text) : Text :=
  join [','] selected

/-- No column of a projection holds a comma. -/
theorem not_mem_of_mem_tokens {raw column : Text} (member : column ∈ tokens raw) :
    CodePoint.scalar ',' ∉ column := by
  obtain ⟨piece, isPiece, rfl⟩ := List.mem_map.1 member
  exact fun found => not_mem_of_mem_pieces isPiece (mem_of_mem_trim found)

/-- The columns of a projection are the columns of their text, unless one is empty. -/
theorem tokens_text {raw : Text} :
    tokens (text (tokens raw)) = tokens raw := by
  have someToken : tokens raw ≠ [] := by simp [tokens, pieces_ne_nil]
  have parts : pieces ',' (text (tokens raw)) = tokens raw :=
    pieces_join someToken fun _ member => not_mem_of_mem_tokens member
  rw [tokens, parts, tokens, List.map_map]
  apply List.map_congr_left
  intro piece _
  simp

/-- The text of the columns of a projection is no longer than the projection. -/
theorem length_text_tokens_le (raw : Text) : (text (tokens raw)).length ≤ raw.length := by
  have shorter : (text (tokens raw)).length ≤ (join [','] (pieces ',' raw)).length := by
    refine length_join_le (List.forall₂_map_left_iff.2 (List.forall₂_same.2 ?_))
    exact fun piece _ => length_trim_le piece
  rwa [join_pieces] at shorter

/-- The columns of a projection are read from their text, which is no longer than the text they
were read from. -/
theorem parse_text {allowed : AllowList} {raw : Text} {selected : List Text}
    (named : [] ∉ allowed) (read : parse allowed raw = .ok selected) :
    parse allowed (text selected) = .ok selected ∧ (text selected).length ≤ raw.length := by
  obtain ⟨nonempty, same, listed⟩ := parse_eq_ok_iff.1 read
  by_cases blank : raw = []
  · subst blank
    cases same
    exact ⟨read, Nat.le_refl _⟩
  · rw [columns, if_neg blank] at same
    subst same
    obtain ⟨column, member⟩ := List.exists_mem_of_ne_nil (tokens raw)
      (by simp [tokens, pieces_ne_nil])
    have someText : text (tokens raw) ≠ [] :=
      join_ne_nil member fun empty => named (empty ▸ listed column member)
    refine ⟨parse_eq_ok_iff.2 ⟨nonempty, ?_, listed⟩, length_text_tokens_le raw⟩
    rw [columns, if_neg someText, tokens_text]

end ListQuery.Fields
