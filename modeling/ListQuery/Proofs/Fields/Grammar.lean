import ListQuery.Proofs.Fields
import ListQuery.Proofs.Leftmost

/-!
# The grammar of projections

    projection := part (',' part)*
    part := blank* column blank*

Every part of a projection has a column, which is empty if the part is blank. `Pads` relates a part
to its column. A projection is read exactly if the columns of all its parts are allowed, and
otherwise the leftmost one that is not is reported (`Projects`). Columns are read again however they
are padded, unless nothing at all is written.
-/

namespace ListQuery.Fields

open Text

/-- A part of a projection is a column with blanks around it. -/
inductive Pads : Text → Text → Prop where
  | part {front column back : Text} (isFront : Within isBlank front) (bare : Bare isBlank column)
      (isBack : Within isBlank back) : Pads (front ++ column ++ back) column

/-- The column of a part is the trimmed part. -/
theorem pads_iff {part column : Text} : Pads part column ↔ column = trim part := by
  constructor
  · rintro ⟨isFront, bare, isBack⟩
    exact (trim_spaced isFront bare isBack).symm
  · rintro rfl
    obtain ⟨front, back, same, isFront, isBack⟩ := exists_eq_append_trim_append part
    have pads := Pads.part isFront (bare_trim part) isBack
    rwa [← same] at pads

/-- The columns of parts are the trimmed parts in order. -/
theorem forall₂_pads_iff {parts selected : List Text} :
    List.Forall₂ Pads parts selected ↔ selected = parts.map trim := by
  constructor
  · intro pads
    induction pads with
    | nil => rfl
    | cons first rest ih => rw [List.map_cons, ← ih, ← pads_iff.1 first]
  · rintro rfl
    rw [List.forall₂_map_right_iff]
    exact List.forall₂_same.2 fun part _ => pads_iff.2 rfl

/-- Padding brings no comma in. -/
theorem Pads.not_mem {part column : Text} (pads : Pads part column)
    (free : CodePoint.scalar ',' ∉ column) : CodePoint.scalar ',' ∉ part := by
  have outside : isBlank (.scalar ',') = false := by decide
  obtain ⟨isFront, bare, isBack⟩ := pads
  simp [isFront.not_mem outside, free, isBack.not_mem outside]

variable {allowed : AllowList} {raw : Text}

/-- A projection is refused exactly if one of its columns is not allowed, for the leftmost such
one. -/
theorem parse_eq_error_iff {rejection : Rejection} (nonempty : allowed ≠ []) :
    parse allowed raw = .error rejection ↔ ∃ column,
      Leftmost (· ∉ allowed) (columns raw) column ∧ rejection = allowed.unknownColumn column := by
  have passed := AllowList.requireNonempty_of_ne_nil nonempty
  rw [parse_eq, ← AllowList.requireAll_eq_error_iff]
  constructor
  · intro refused
    rcases bind_eq_error_iff.1 refused with empty | ⟨_, -, refused⟩
    · cases empty.symm.trans passed
    · rcases bind_eq_error_iff.1 refused with stopped | ⟨_, -, read⟩
      · exact stopped
      · cases read
  · intro stopped
    exact bind_eq_error_iff.2 (.inr ⟨(), passed, bind_eq_error_iff.2 (.inl stopped)⟩)

/-- A projection consists of parts with these columns, and is read as them if all are allowed. It is
refused for the leftmost one that is not allowed, and for nothing else. -/
structure Projects (allowed : AllowList) (raw : Text) (selected : List Text) : Prop where
  parts : List.Forall₂ Pads (raw.splitOn (.scalar ',')) selected
  ungated : columns raw = selected
  length : selected.length = raw.count (.scalar ',') + 1
  accepts : ∀ result, parse allowed raw = .ok result ↔
    result = selected ∧ ∀ column ∈ selected, column ∈ allowed
  rejects : ∀ rejection, parse allowed raw = .error rejection ↔ ∃ column,
    Leftmost (· ∉ allowed) selected column ∧ rejection =
      { reason := .unknownColumn
        token := some column
        expected := some ("one of " ++ join ", " allowed) }

/-- A nonempty projection consists of its columns. -/
theorem projects_columns (nonempty : allowed ≠ []) (someText : raw ≠ []) :
    Projects allowed raw (columns raw) where
  parts := by
    rw [columns, if_neg someText, tokens, pieces_eq_splitOn]
    exact forall₂_pads_iff.2 rfl
  ungated := rfl
  length := by rw [columns, if_neg someText, tokens, List.length_map, length_pieces]
  accepts := by
    intro result
    rw [parse_eq_ok_iff, and_iff_right nonempty]
    constructor <;> rintro ⟨rfl, listed⟩ <;> exact ⟨rfl, listed⟩
  rejects := fun rejection => parse_eq_error_iff nonempty

/-- Padded columns are the columns of what they join to, unless nothing is written. -/
theorem columns_join {parts selected : List Text} (pads : List.Forall₂ Pads parts selected)
    (someColumn : selected ≠ []) (free : ∀ column ∈ selected, CodePoint.scalar ',' ∉ column) :
    columns (join "," parts) = selected ↔ parts ≠ [[]] := by
  obtain rfl := forall₂_pads_iff.1 pads
  have freeParts : ∀ part ∈ parts, CodePoint.scalar ',' ∉ part := fun part member =>
    (pads_iff.2 rfl).not_mem (free _ (List.mem_map_of_mem member))
  have somePart : parts ≠ [] := by simpa using someColumn
  have cut : pieces ',' (join "," parts) = parts := pieces_join somePart freeParts
  constructor
  · rintro read rfl
    cases read
  · intro written
    have someText : join "," parts ≠ [] := by
      intro nothing
      rw [nothing] at cut
      exact written cut.symm
    rw [columns, if_neg someText, tokens, cut]

/-- A nonempty projection is read exactly if the columns of its parts, between commas, are all
allowed, and then it is read as them; otherwise the leftmost one that is not allowed is reported.
Allowed columns with any blanks around them and commas between are read as they are. Only the empty
text, which would write the empty column alone, is read otherwise. -/
theorem reads_exactly_padded (allowed : AllowList) (nonempty : allowed ≠ []) :
    (∀ raw : Text, raw ≠ [] → ∃ selected, Projects allowed raw selected) ∧
    ∀ parts selected, List.Forall₂ Pads parts selected → selected ≠ [] →
      (∀ column ∈ selected, column ∈ allowed ∧ CodePoint.scalar ',' ∉ column) →
      (parse allowed (join "," parts) = .ok selected ↔ parts ≠ [[]]) := by
  constructor
  · intro raw someText
    exact ⟨_, projects_columns nonempty someText⟩
  · intro parts selected pads someColumn plain
    rw [← columns_join pads someColumn fun column member => (plain column member).2,
      parse_eq_ok_iff, and_iff_right nonempty, eq_comm]
    exact and_iff_left fun column member => (plain column member).1

/-- A projection with a repeated column and blanks of several kinds is read. One with an empty part
is refused for that part, and the part behind it is not reported. Where the empty column is allowed,
it can be asked for more than once. -/
theorem reads_exactly_padded_repeated :
    parse ["id", "name"] " name,id\u3000,name" = .ok ["name", "id", "name"] ∧
      parse ["id", "name"] "id, ,zip" =
        .error ⟨.unknownColumn, some [], some "one of id, name"⟩ ∧
      parse ["id", []] (join "," [[], " ", "\u2003id "]) = .ok [[], [], "id"] := by
  have reads := (reads_exactly_padded ["id", "name"] (by decide)).1
  have writes := (reads_exactly_padded ["id", []] (by decide)).2
  refine ⟨?_, ?_, ?_⟩
  · obtain ⟨selected, projects⟩ := reads " name,id\u3000,name" (by decide)
    obtain rfl : (["name", "id", "name"] : List Text) = selected := projects.ungated
    exact (projects.accepts _).2 ⟨rfl, by decide⟩
  · obtain ⟨selected, projects⟩ := reads "id, ,zip" (by decide)
    obtain rfl : (["id", [], "zip"] : List Text) = selected := projects.ungated
    exact (projects.rejects _).2 ⟨[], .later (by decide) (.here (by decide)), rfl⟩
  · refine (writes _ _ ?_ (by decide) (by decide)).2 (by decide)
    exact forall₂_pads_iff.2 (by decide)

end ListQuery.Fields
