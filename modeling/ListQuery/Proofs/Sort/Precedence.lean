import ListQuery.Proofs.Leftmost
import ListQuery.Proofs.Reasons
import ListQuery.Proofs.Sort.Grammar
import ListQuery.Proofs.Sort.Part

/-!
# Which fault of a sort order is reported

Several parts of a sort order can be at fault, and a part in several ways. All columns come first,
then all missing directions, then all unknown ones, and each time the leftmost part at fault is
reported. Columns and directions may be collected apart, since by the time that directions are
paired with columns again no part lacks one.
-/

namespace ListQuery.Sort

open Text

/-- The column of a part is not in the list. -/
def Unlisted (allowed : AllowList) (source : Text) : Prop :=
  ∃ column direction, Consists source column direction ∧ column ∉ allowed

/-- A part has no direction. -/
def Undirected (source : Text) : Prop :=
  ∃ column, Consists source column none

/-- The direction of a part is the keyword of none. -/
def Misdirected (source : Text) : Prop :=
  ∃ column word, Consists source column (some word) ∧
    ∀ direction : Direction, upper word ≠ direction.keyword

/-- A sort order is judged by its leftmost part whose column is not in the list, or else by its
leftmost part without a direction, or else by its leftmost part with an unknown direction, and by
nothing else. -/
structure Judged (allowed : AllowList) (sources : List Text)
    (outcome : Except Rejection (List Key)) : Prop where
  unlisted : ∀ source column direction, Leftmost (Unlisted allowed) sources source →
    Consists source column direction → outcome = .error
      { reason := .unknownColumn
        token := some column
        expected := some ("one of " ++ join ", " allowed) }
  undirected : (∀ source ∈ sources, ¬ Unlisted allowed source) →
    ∀ source, Leftmost Undirected sources source →
      outcome = .error
        { reason := .cardinalityMismatch
          token := some (trim source)
          expected := some "ASC or DESC" }
  misdirected : (∀ source ∈ sources, ¬ Unlisted allowed source) →
    (∀ source ∈ sources, ¬ Undirected source) →
      ∀ source column word, Leftmost Misdirected sources source →
        Consists source column (some word) →
        outcome = .error
          { reason := .unknownDirection
            token := some word
            expected := some "ASC or DESC" }
  read : (∀ source ∈ sources, ¬ Unlisted allowed source) →
    (∀ source ∈ sources, ¬ Undirected source) → (∀ source ∈ sources, ¬ Misdirected source) →
      ∃ keys, outcome = .ok keys

/-! ## Faults of one part -/

section

variable {allowed : AllowList} {source column word : Text} {direction : Option Text}

/-- What a part is taken apart into. -/
theorem Consists.ofText (consists : Consists source column direction) :
    Part.ofText source = ⟨source, column, direction⟩ :=
  consists_iff.1 consists

/-- The column of a part is not in the list. -/
theorem unlisted_iff : Unlisted allowed source ↔ (Part.ofText source).column ∉ allowed := by
  constructor
  · rintro ⟨column, direction, consists, outside⟩
    rwa [consists.ofText]
  · intro outside
    exact ⟨_, _, consists_ofText source, outside⟩

/-- A part has no direction. -/
theorem undirected_iff : Undirected source ↔ (Part.ofText source).direction = none := by
  constructor
  · rintro ⟨column, consists⟩
    rw [consists.ofText]
  · intro missing
    exact ⟨_, missing ▸ consists_ofText source⟩

/-- A direction is unknown exactly if it is the keyword of none. -/
theorem ofKeyword?_eq_none_iff :
    Direction.ofKeyword? word = none ↔ ∀ direction : Direction, upper word ≠ direction.keyword := by
  simp only [Option.eq_none_iff_forall_ne_some, ne_eq, Direction.ofKeyword?_eq_some_iff]

/-- A part has an unknown direction. -/
theorem misdirected_iff : Misdirected source ↔
    ∃ word ∈ (Part.ofText source).direction, Direction.ofKeyword? word = none := by
  simp only [ofKeyword?_eq_none_iff]
  constructor
  · rintro ⟨column, word, consists, unknown⟩
    exact ⟨word, by rw [consists.ofText]; rfl, unknown⟩
  · rintro ⟨word, found, unknown⟩
    exact ⟨_, word, Option.mem_def.1 found ▸ consists_ofText source, unknown⟩

instance : Decidable (Unlisted allowed source) :=
  decidable_of_iff (allowed.contains (Part.ofText source).column = false)
    (by simp [unlisted_iff])

instance : Decidable (Undirected source) :=
  decidable_of_iff _ undirected_iff.symm

instance : Decidable (Misdirected source) :=
  decidable_of_iff _ misdirected_iff.symm

/-- A part that does not lack a direction has one. -/
theorem exists_directed (directed : ¬ Undirected source) :
    ∃ column word, Consists source column (some word) := by
  obtain ⟨word, found⟩ := Option.ne_none_iff_exists'.1 (mt undirected_iff.2 directed)
  exact ⟨_, word, found ▸ consists_ofText source⟩

/-- A part with a direction is read as far as its two texts. -/
theorem Consists.directed_eq (consists : Consists source column (some word)) :
    (Part.ofText source).directed = .ok (column, word) := by
  rw [consists.ofText]
  rfl

/-- A part without a direction is not read. -/
theorem Undirected.directed_eq (missing : Undirected source) :
    (Part.ofText source).directed =
      .error (.expecting .cardinalityMismatch (trim source) Direction.hint) := by
  obtain ⟨column, consists⟩ := missing
  rw [consists.ofText]
  rfl

/-- A part that has a direction, and not an unknown one, stands for a key. -/
theorem exists_reads (directed : ¬ Undirected source) (known : ¬ Misdirected source) :
    ∃ key, Reads source key := by
  obtain ⟨column, word, consists⟩ := exists_directed directed
  have named : Direction.ofKeyword? word ≠ none := by
    intro unknown
    exact known ⟨column, word, consists, ofKeyword?_eq_none_iff.1 unknown⟩
  obtain ⟨direction, named⟩ := Option.ne_none_iff_exists'.1 named
  refine ⟨⟨column, direction⟩, directed_eq_ok_iff.1 ?_⟩
  rw [consists.directed_eq]
  show Key.ofTexts column word = _
  rw [Key.ofTexts, named]

end

/-! ## Faults of a sort order -/

variable {allowed : AllowList} {sources : List Text}

/-- A reader that stops at unlisted columns and then reads the parts is judged by them in this
order. -/
theorem judged_readParts (allowed : AllowList) (sources : List Text) :
    Judged allowed sources
      (allowed.requireAll ((sources.map Part.ofText).map Part.column) >>= fun _ =>
        readParts (sources.map Part.ofText)) := by
  have passes : (∀ source ∈ sources, ¬ Unlisted allowed source) →
      allowed.requireAll ((sources.map Part.ofText).map Part.column) = .ok () := by
    intro listed
    refine AllowList.requireAll_eq_ok_iff.2 ?_
    simpa [unlisted_iff] using listed
  have parts : (sources.map Part.ofText).mapM Part.directed =
      sources.mapM fun source => (Part.ofText source).directed := List.mapM_map
  constructor
  · intro source column direction leftmost consists
    simp only [funext fun source => propext (@unlisted_iff allowed source)] at leftmost
    have stopped := AllowList.requireAll_of_leftmost
      (Leftmost.map (f := fun source => (Part.ofText source).column) leftmost)
    rw [consists.ofText] at stopped
    rw [List.map_map]
    exact bind_eq_error_iff.2 (.inl stopped)
  · intro listed source leftmost
    refine bind_eq_error_iff.2 (.inr ⟨(), passes listed, bind_eq_error_iff.2 (.inl ?_)⟩)
    rw [parts]
    refine mapM_eq_error_of_leftmost leftmost ?_ leftmost.property.directed_eq
    intro source member directed
    obtain ⟨column, word, consists⟩ := exists_directed directed
    exact ⟨_, consists.directed_eq⟩
  · intro listed directed source column word leftmost consists
    refine bind_eq_error_iff.2 (.inr ⟨(), passes listed, ?_⟩)
    rw [readParts, parts]
    refine mapM_mapM_eq_error_of_leftmost leftmost ?_ ?_ ?_
    · intro source member
      obtain ⟨column, word, consists⟩ := exists_directed (directed source member)
      exact ⟨_, consists.directed_eq⟩
    · intro source member known
      obtain ⟨key, reads⟩ := exists_reads (directed source member) known
      exact ⟨key, directed_eq_ok_iff.2 reads⟩
    · obtain ⟨_, _, sameConsists, unknown⟩ := leftmost.property
      cases sameConsists.ofText.symm.trans consists.ofText
      rw [consists.directed_eq]
      show Key.ofTexts column word = _
      rw [Key.ofTexts, ofKeyword?_eq_none_iff.2 unknown]
      rfl
  · intro listed directed known
    have reads : ∀ source ∈ sources, ∃ key,
        ((Part.ofText source).directed >>= fun directed => Key.ofTexts directed.1 directed.2) =
          .ok key := by
      intro source member
      obtain ⟨key, reads⟩ := exists_reads (directed source member) (known source member)
      exact ⟨key, directed_eq_ok_iff.2 reads⟩
    obtain ⟨keys, read⟩ := exists_mapM_of_forall reads
    refine ⟨keys, bind_eq_ok_iff.2 ⟨(), passes listed, ?_⟩⟩
    rw [readParts, parts]
    exact mapM_mapM_eq_ok_iff.2 (mapM_eq_ok_iff.1 read)

/-- What is judged this way fails for one of three reasons. -/
theorem Judged.failsFor {outcome : Except Rejection (List Key)}
    (judged : Judged allowed sources outcome) :
    FailsFor [.unknownColumn, .cardinalityMismatch, .unknownDirection] outcome := by
  rcases Leftmost.none_or_exists (Unlisted allowed) sources with listed | ⟨first, leftmost⟩
  · rcases Leftmost.none_or_exists Undirected sources with directed | ⟨first, leftmost⟩
    · rcases Leftmost.none_or_exists Misdirected sources with known | ⟨first, leftmost⟩
      · obtain ⟨keys, read⟩ := judged.read listed directed known
        exact read ▸ .ok trivial
      · obtain ⟨column, word, consists, -⟩ := leftmost.property
        rw [judged.misdirected listed directed first column word leftmost consists]
        exact .error (by simp)
    · rw [judged.undirected listed first leftmost]
      exact .error (by simp)
  · obtain ⟨column, direction, consists, -⟩ := leftmost.property
    rw [judged.unlisted first column direction leftmost consists]
    exact .error (by simp)

/-- Faults of a sort order are reported in this order: the leftmost column that is not allowed,
whatever stands before it; the leftmost part without a direction; the leftmost unknown direction. A
sort order without any of these faults is read, and there is no other reason to reject one. So it is
when columns and directions are collected apart. -/
theorem parse_reports_leftmost {raw : Text} (columns : allowed ≠ []) (nonempty : raw ≠ []) :
    Judged allowed (raw.splitOn (.scalar ',')) (parse allowed raw) ∧
      FailsFor [.unknownColumn, .cardinalityMismatch, .unknownDirection] (parse allowed raw) ∧
      Stepwise.sort allowed raw = Stepwise.sound (parse allowed raw) := by
  have judged : Judged allowed (raw.splitOn (.scalar ',')) (parse allowed raw) := by
    rw [parse_eq, AllowList.requireNonempty_of_ne_nil columns, sources, if_neg nonempty,
      ← pieces_eq_splitOn]
    exact judged_readParts allowed _
  exact ⟨judged, judged.failsFor, Stepwise.sort_eq allowed raw⟩

/-- Of a bad direction, a missing one and an unlisted column, the column on the right is reported.
Where all columns are listed, the missing direction is, and last the bad one. -/
theorem parse_reports_leftmost_each :
    (["id", "no"] : AllowList) ≠ [] ∧ ("id UP, no ,zip" : Text) ≠ [] ∧
      parse ["id", "no"] "id UP, no ,zip" =
        .error ⟨.unknownColumn, some "zip", some "one of id, no"⟩ ∧
      parse ["id", "no"] "id UP, no ,id" =
        .error ⟨.cardinalityMismatch, some "no", some "ASC or DESC"⟩ ∧
      parse ["id", "no"] "id asc,no\u3000 UP " =
        .error ⟨.unknownDirection, some "UP", some "ASC or DESC"⟩ := by
  have columns : (["id", "no"] : AllowList) ≠ [] := by decide
  have unlisted := @parse_reports_leftmost ["id", "no"] "id UP, no ,zip" columns (by decide)
  have undirected := @parse_reports_leftmost ["id", "no"] "id UP, no ,id" columns (by decide)
  have misdirected :=
    @parse_reports_leftmost ["id", "no"] "id asc,no\u3000 UP " columns (by decide)
  refine ⟨columns, by decide, ?_, ?_, ?_⟩
  · refine unlisted.1.unlisted "zip" "zip" none ?_ (consists_iff.2 (by decide))
    exact .later (by decide) (.later (by decide) (.here (by decide)))
  · exact undirected.1.undirected (by decide) " no " (.later (by decide) (.here (by decide)))
  · refine misdirected.1.misdirected (by decide) (by decide) "no\u3000 UP " "no" "UP" ?_
      (consists_iff.2 (by decide))
    exact .later (by decide) (.here (by decide))

end ListQuery.Sort
