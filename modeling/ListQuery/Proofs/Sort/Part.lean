import ListQuery.Proofs.Sort

/-!
# Parts of sort orders

What a part of a sort order is made of, whether or not it can be read: nothing but blanks, a column
alone, or a column and a text for the direction, with blanks around each. `consists_iff` says that
this is how a part is taken apart.
-/

namespace ListQuery.Sort

open Text

/-- A source text is made of a column and perhaps a direction text. The column of a blank text is
empty. -/
inductive Consists : Text → Text → Option Text → Prop where
  | blank {source : Text} (isBlank : Within isBlank source) : Consists source [] none
  | column {front column back : Text} (isFront : Within isBlank front) (isColumn : IsWord column)
      (isBack : Within isBlank back) : Consists (front ++ column ++ back) column none
  | directed {front column gap word back : Text} (isFront : Within isBlank front)
      (isColumn : IsWord column) (isGap : Within isBlank gap) (spaced : gap ≠ [])
      (bare : Bare isBlank word) (nonempty : word ≠ []) (isBack : Within isBlank back) :
      Consists (front ++ column ++ gap ++ word ++ back) column (some word)

/-- Nothing is left of a blank text. -/
theorem dropWhile_blank {text : Text} (blank : Within isBlank text) :
    text.dropWhile isBlank = [] := by
  simpa using dropWhile_run blank stopsAt_nil

/-- A column with blanks around is the first word of a text, and nothing follows it. -/
theorem splitFirstWord_column {front column back : Text} (isFront : Within isBlank front)
    (isColumn : IsWord column) (isBack : Within isBlank back) :
    splitFirstWord (front ++ column ++ back) = (column, []) := by
  have start : StopsAt isBlank (column ++ back) := by
    cases column with
    | nil => exact absurd rfl isColumn.nonempty
    | cons c column => simpa using (within_cons.1 isColumn.word).1
  have ends : StopsAt (! isBlank ·) back := by
    cases back with
    | nil => exact stopsAt_nil
    | cons c back => simpa using (within_cons.1 isBack).1
  have bare : Bare isBlank [] := .of_forall (by simp)
  have trimmed : trim back = [] := by simpa using trim_spaced isBack bare within_nil
  simp only [splitFirstWord, List.append_assoc, dropWhile_run isFront start,
    takeWhile_run isColumn.word ends, dropWhile_run isColumn.word ends, trimmed]

/-- A source text is made of what it is taken apart into. -/
theorem consists_ofText (source : Text) :
    Consists source (Part.ofText source).column (Part.ofText source).direction := by
  rcases split : splitFirstWord source with ⟨column, rest⟩
  simp only [Part.ofText, split]
  by_cases alone : rest = []
  · subst alone
    obtain ⟨isColumn, isRest⟩ := Prod.mk.inj split
    have whole : source.takeWhile isBlank ++ source.dropWhile isBlank = source :=
      List.takeWhile_append_dropWhile
    have isFront : Within isBlank (source.takeWhile isBlank) := within_takeWhile source
    have isStart : StopsAt isBlank (source.dropWhile isBlank) := stopsAt_dropWhile source
    rw [if_pos rfl]
    cases start : source.dropWhile isBlank with
    | nil =>
      obtain rfl : [] = column := by simpa [start] using isColumn
      rw [start, List.append_nil] at whole
      exact .blank (whole ▸ isFront)
    | cons c text =>
      -- The text starts outside the blanks, so its first word has a code point.
      have outside : isBlank c = false := stopsAt_cons.1 (start ▸ isStart)
      rw [start] at isColumn isRest
      have isWord : IsWord column := by
        refine ⟨?_, isColumn ▸ within_takeWhile _⟩
        rw [← isColumn, List.takeWhile_cons_of_pos (by simp [outside])]
        simp
      obtain ⟨back, more, same, isBack, isMore⟩ :=
        exists_eq_append_trim_append ((c :: text).dropWhile (! isBlank ·))
      rw [isRest, List.append_nil] at same
      have parts : source = source.takeWhile isBlank ++ column ++ (back ++ more) := by
        rw [← same, ← isColumn, List.append_assoc, List.takeWhile_append_dropWhile, ← start, whole]
      rw [parts]
      exact .column isFront isWord (List.forall_mem_append.2 ⟨isBack, isMore⟩)
  · rw [if_neg alone]
    obtain ⟨isColumn, front, gap, back, same, isFront, isGap, spaced, isBack⟩ :=
      exists_eq_of_splitFirstWord split alone
    obtain ⟨-, isRest⟩ := Prod.mk.inj split
    rw [same]
    exact .directed isFront isColumn isGap spaced (isRest ▸ bare_trim _) alone isBack

/-- A source text is made of a column and perhaps a direction exactly if it is taken apart into
them. -/
theorem consists_iff {source column : Text} {direction : Option Text} :
    Consists source column direction ↔ Part.ofText source = ⟨source, column, direction⟩ := by
  constructor
  · intro consists
    cases consists with
    | blank isBlank =>
      have start := dropWhile_blank isBlank
      have trimmed : trim [] = [] := rfl
      simp [Part.ofText, splitFirstWord, start, trimmed]
    | column isFront isColumn isBack =>
      simp only [Part.ofText, splitFirstWord_column isFront isColumn isBack, if_pos]
    | directed isFront isColumn isGap spaced bare nonempty isBack =>
      simp only [Part.ofText, splitFirstWord_spaced isColumn bare isFront isGap spaced isBack,
        if_neg nonempty]
  · intro taken
    have consists := consists_ofText source
    rwa [taken] at consists

end ListQuery.Sort
