import ListQuery.Proofs.Stepwise.Reader

/-!
# The grammar of sort orders

What a sort order looks like, character by character: its parts stand between commas, and each part
is

    part := blank* column blank+ direction blank*

where the column is an allowed word and the direction has the upper case of a keyword. `Spells`
relates a part to the key that it writes. The keys of a sort order are those of its parts, each at
its place, also if columns and directions are collected apart and paired again afterwards.
-/

namespace ListQuery.Sort

open Text

/-- A text is a part of a sort order, and writes the given key. -/
inductive Spells (allowed : AllowList) : Text → Key → Prop where
  | part {front column gap word back : Text} {direction : Direction}
      (isFront : Within isBlank front) (listed : column ∈ allowed) (isColumn : IsWord column)
      (isGap : Within isBlank gap) (spaced : gap ≠ [])
      (isDirection : upper word = direction.keyword) (isBack : Within isBlank back) :
      Spells allowed (front ++ column ++ gap ++ word ++ back) ⟨column, direction⟩

variable {allowed : AllowList}

/-- A text names a direction exactly if its upper case is the keyword. -/
theorem Direction.ofKeyword?_eq_some_iff {text : Text} {direction : Direction} :
    Direction.ofKeyword? text = some direction ↔ upper text = direction.keyword := by
  have apart : ascending.keyword ≠ descending.keyword := by decide
  unfold Direction.ofKeyword?
  cases direction <;> grind

/-- A text that names a direction has no blanks at its ends. -/
theorem Direction.bare {text : Text} {direction : Direction}
    (named : upper text = direction.keyword) : Bare isBlank text := by
  refine .of_forall (not_isBlank_of_upper ?_)
  rw [named]
  cases direction <;> decide

/-- A part stands for a key of an allowed column exactly if it writes that key. -/
theorem reads_and_listed_iff {source : Text} {key : Key} :
    Reads source key ∧ key.column ∈ allowed ↔ Spells allowed source key := by
  constructor
  · rintro ⟨⟨word, split, named⟩, listed⟩
    obtain ⟨isColumn, front, gap, back, rfl, isFront, isGap, spaced, isBack⟩ :=
      exists_eq_of_splitFirstWord split (Direction.ne_nil named)
    exact .part isFront listed isColumn isGap spaced (Direction.ofKeyword?_eq_some_iff.1 named)
      isBack
  · rintro ⟨isFront, listed, isColumn, isGap, spaced, isDirection, isBack⟩
    have split := splitFirstWord_spaced isColumn (Direction.bare isDirection) isFront isGap spaced
      isBack
    exact ⟨⟨_, split, Direction.ofKeyword?_eq_some_iff.2 isDirection⟩, listed⟩

/-- Parts stand for keys of allowed columns exactly if they write these keys. -/
theorem forall₂_spells_iff {parts : List Text} {keys : List Key} :
    (List.Forall₂ Reads parts keys ∧ ∀ column ∈ keys.map Key.column, column ∈ allowed) ↔
      List.Forall₂ (Spells allowed) parts keys := by
  constructor
  · rintro ⟨reads, listed⟩
    induction reads with
    | nil => exact .nil
    | cons first rest ih =>
      obtain ⟨isListed, others⟩ := List.forall_mem_cons.1 listed
      exact .cons (reads_and_listed_iff.1 ⟨first, isListed⟩) (ih others)
  · intro spells
    induction spells with
    | nil => exact ⟨.nil, by simp⟩
    | cons first rest ih =>
      obtain ⟨reads, listed⟩ := reads_and_listed_iff.2 first
      exact ⟨.cons reads ih.1, List.forall_mem_cons.2 ⟨listed, ih.2⟩⟩

/-- A nonempty sort order is read as the keys that its parts write. -/
theorem parse_eq_ok_iff_forall₂ {raw : Text} {keys : List Key} (columns : allowed ≠ [])
    (nonempty : raw ≠ []) :
    parse allowed raw = .ok keys ↔ List.Forall₂ (Spells allowed) (pieces ',' raw) keys := by
  rw [parse_eq_ok_iff, sources, if_neg nonempty, forall₂_spells_iff]
  exact and_iff_right columns

/-- Blanks in front of a part make no difference. -/
theorem Spells.prepend {source gap : Text} {key : Key} (spells : Spells allowed source key)
    (isGap : Within isBlank gap) : Spells allowed (gap ++ source) key := by
  cases spells with
  | part isFront listed isColumn isBetween spaced isDirection isBack =>
    have widened : Within isBlank (gap ++ _) := List.forall_mem_append.2 ⟨isGap, isFront⟩
    have part := Spells.part widened listed isColumn isBetween spaced isDirection isBack
    simpa only [List.append_assoc] using part

/-- Keys are read from their texts with a comma and any blanks between neighbours. -/
theorem parse_join {keys : List Key} {gap : Text} (columns : allowed ≠ []) (nonempty : keys ≠ [])
    (isGap : Within isBlank gap)
    (plain : ∀ key ∈ keys, key.column ∈ allowed ∧ IsWord key.column ∧
      CodePoint.scalar ',' ∉ key.column) :
    parse allowed (join (',' :: gap) (keys.map Key.text)) = .ok keys := by
  have spells : ∀ key ∈ keys, Spells allowed key.text key := fun key member =>
    reads_and_listed_iff.1 ⟨reads_text (plain key member).2.1, (plain key member).1⟩
  have noComma : ∀ key ∈ keys, CodePoint.scalar ',' ∉ key.text := fun key member =>
    not_mem_text (plain key member).2.2
  have noCommaInGap : CodePoint.scalar ',' ∉ gap := isGap.not_mem (by decide)
  cases keys with
  | nil => exact absurd rfl nonempty
  | cons first rest =>
    rw [List.map_cons, join_spaced]
    obtain ⟨firstSpells, restSpells⟩ := List.forall_mem_cons.1 spells
    obtain ⟨firstFree, restFree⟩ := List.forall_mem_cons.1 noComma
    have free : ∀ part ∈ first.text :: (rest.map Key.text).map (gap ++ ·),
        CodePoint.scalar ',' ∉ part := by
      refine List.forall_mem_cons.2 ⟨firstFree, fun part member => ?_⟩
      simp only [List.map_map, List.mem_map, Function.comp_apply] at member
      obtain ⟨key, isKey, rfl⟩ := member
      simp [noCommaInGap, restFree key isKey]
    have someText : join [','] (first.text :: (rest.map Key.text).map (gap ++ ·)) ≠ [] :=
      join_ne_nil List.mem_cons_self (by simp [Key.text])
    rw [parse_eq_ok_iff_forall₂ columns someText, pieces_join (by simp) free]
    refine .cons firstSpells ?_
    rw [List.map_map, List.forall₂_map_left_iff]
    exact List.forall₂_same.2 fun key member => (restSpells key member).prepend isGap

/-- A nonempty sort order is read exactly if every part of it, between commas, writes a key of an
allowed column, and the keys are those of the parts in order; so it is when columns and directions
are collected apart. Keys written one after the other are read as they are. -/
theorem reads_exactly_spelled (allowed : AllowList) (columns : allowed ≠ []) :
    (∀ raw keys, raw ≠ [] →
      (parse allowed raw = .ok keys ↔
        List.Forall₂ (Spells allowed) (raw.splitOn (.scalar ',')) keys) ∧
      (Stepwise.sort allowed raw = .ok keys ↔
        List.Forall₂ (Spells allowed) (raw.splitOn (.scalar ',')) keys)) ∧
    ∀ keys, keys ≠ [] →
      (∀ key ∈ keys, key.column ∈ allowed ∧ key.column ≠ [] ∧
        ∀ c ∈ key.column, c ≠ .scalar ',' ∧ isBlank c = false) →
      parse allowed (join "," (keys.map Key.text)) = .ok keys ∧
        parse allowed (join ", " (keys.map Key.text)) = .ok keys := by
  constructor
  · intro raw keys nonempty
    have read := @parse_eq_ok_iff_forall₂ allowed raw keys columns nonempty
    rw [pieces_eq_splitOn] at read
    refine ⟨read, ?_⟩
    rw [Stepwise.sort_eq, ← read]
    exact Stepwise.sound_eq_ok_iff
  · intro keys nonempty plain
    have words : ∀ key ∈ keys, key.column ∈ allowed ∧ IsWord key.column ∧
        CodePoint.scalar ',' ∉ key.column := by
      intro key member
      obtain ⟨listed, some, free⟩ := plain key member
      refine ⟨listed, ⟨some, fun c inside => ?_⟩, fun found => (free _ found).1 rfl⟩
      simp [(free c inside).2]
    have space : Within isBlank [CodePoint.scalar ' '] := within_cons.2 ⟨by decide, within_nil⟩
    exact ⟨parse_join columns nonempty within_nil words,
      parse_join columns nonempty space words⟩

/-- A sort order with blanks of several kinds and a long s in a direction is read part by part, and
its keys are read again. -/
theorem reads_exactly_spelled_mixed :
    let keys : List Key := [⟨"id", .ascending⟩, ⟨"name", .descending⟩]
    parse ["name", "id"] "\u2003id  a\u017fc ,name\u3000DESC" = .ok keys ∧
      parse ["name", "id"] (join ", " (keys.map Key.text)) = .ok keys := by
  intro keys
  obtain ⟨spelled, joined⟩ := reads_exactly_spelled ["name", "id"] (by simp)
  have first : Spells ["name", "id"] "\u2003id  a\u017fc " ⟨"id", .ascending⟩ :=
    @Spells.part _ "\u2003" "id" "  " "a\u017fc" " " .ascending (by decide) (by decide)
      ⟨by decide, by decide⟩ (by decide) (by decide) (by decide) (by decide)
  have second : Spells ["name", "id"] "name\u3000DESC" ⟨"name", .descending⟩ :=
    @Spells.part _ "" "name" "\u3000" "DESC" "" .descending (by decide) (by decide)
      ⟨by decide, by decide⟩ (by decide) (by decide) (by decide) (by decide)
  refine ⟨((spelled _ _ (by decide)).1).2 ?_, (joined keys (by decide) (by decide)).2⟩
  exact .cons first (.cons second .nil)

end ListQuery.Sort
