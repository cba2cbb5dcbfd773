import ListQuery.Proofs.Filter.Combination

/-!
# Filter texts that do not fit together

Texts that are read, put next to each other with a connective, a blank or a parenthesis too many or
too few, are rejected. Whatever the texts are, the descent reads the first one to its end, so the
reason depends on the seam alone (`parse_broken`).
-/

namespace ListQuery.Filter

open Text

/-- What is reported where two texts that are read, `first` and `second`, are put together in a way
that is not of the grammar. -/
structure BrokenCombinations (allowed : AllowList) (first second keyword : Text) (left : Filter) :
    Prop where
  dangling : parse allowed (first ++ [.scalar ' '] ++ keyword) =
    .error ⟨.cardinalityMismatch, some keyword, some "condition"⟩
  danglingClosed : parse allowed (first ++ [.scalar ' '] ++ keyword ++ [.scalar ')']) =
    .error ⟨.cardinalityMismatch, some keyword, some "condition"⟩
  danglingInside : left.nesting < 32 →
    parse allowed ([.scalar '('] ++ first ++ [.scalar ' '] ++ keyword ++ [.scalar ')']) =
      .error ⟨.cardinalityMismatch, some keyword, some "condition"⟩
  leading : parse allowed (keyword ++ [.scalar ' '] ++ first) =
    .error ⟨.cardinalityMismatch, some keyword, some "column"⟩
  unjoined : ∃ token rest, tokenize second = .ok (token :: rest) ∧
    parse allowed (first ++ [.scalar ' '] ++ second) =
      .error ⟨.cardinalityMismatch, some token.text, some "AND or OR"⟩
  unclosed : parse allowed ([.scalar '('] ++ first) =
    .error ⟨.malformed, some "(",
      some (if left.nesting < 32 then "closing parenthesis" else "at most 32 nested groups")⟩
  unopened : parse allowed (first ++ [.scalar ')']) =
    .error ⟨.malformed, some ")", some "matching opening parenthesis"⟩
  emptyGroup : parse allowed
      (first ++ [.scalar ' '] ++ keyword ++ [.scalar ' ', .scalar '(', .scalar ')']) =
    .error ⟨.malformed, some ")", some "column"⟩
  unspacedBefore :
    (first.getLast? = some Quoted.quote ∨ first.getLast? = some (.scalar ')')) →
      parse allowed (first ++ keyword ++ [.scalar ' '] ++ second) =
        .error ⟨.malformed, some keyword, some "whitespace around connective"⟩
  unspacedAfter : second.head? = some (.scalar '(') →
    parse allowed (first ++ [.scalar ' '] ++ keyword ++ second) =
      .error ⟨.malformed, some keyword, some "whitespace around connective"⟩

section

variable {allowed : AllowList} {first second keyword : Text} {tree : Tree}
  {connective : Connective} {rejection : Rejection}

/-! ## Seams -/

/-- A keyword is apart from a text that ends in a quote or a parenthesis. -/
theorem apart_keyword (isKeyword : IsKeyword connective keyword) (behind : Text)
    (ends : first.getLast? = some Quoted.quote ∨ first.getLast? = some (.scalar ')')) :
    Apart first (keyword ++ behind) := by
  intro last isLast next isNext merges
  have word : isWordChar next = true := by
    have nonempty := isKeyword.isWord.nonempty
    rw [List.head?_append_of_ne_nil _ nonempty] at isNext
    exact isKeyword.isWord.word next (List.mem_of_mem_head? isNext)
  have special : last = Quoted.quote ∨ last = .scalar ')' := by
    rcases ends with isQuote | closes
    · exact .inl (Option.some.inj (isLast.symm.trans isQuote))
    · exact .inr (Option.some.inj (isLast.symm.trans closes))
  rcases merges with ⟨isWord, -⟩ | ⟨-, rfl⟩ | ⟨compares, rfl⟩
  · rcases special with rfl | rfl <;> exact absurd isWord (by decide)
  · exact absurd word (by decide)
  · exact absurd word (by decide)

/-- A connective behind a text is a token of its own, which knows the blanks beside it. -/
theorem Tree.LaidBy.exists_keyword {gap behind : Text} (laid : tree.LaidBy first) (start : Nat)
    (isKeyword : IsKeyword connective keyword) (blank : Within isAsciiBlank gap)
    (apart : Apart first (gap ++ keyword ++ behind)) (stops : StopsAt isWordChar behind) :
    ∃ used token next, Spells maxDepth tree used ∧ token.kind = .connective connective ∧
      token.text = keyword ∧ (gap ≠ [] → token.spacedBefore = true) ∧
      (endsBlank (first ++ gap) = false → token.spacedBefore = false) ∧
      token.spacedAfter = beginsBlank behind ∧ ∀ {rest}, Scans next behind rest →
        Scans start (first ++ gap ++ keyword ++ behind) (used ++ token :: rest) := by
  obtain ⟨trailing, used, inside, blankTrailing, isSuffix, spelled, lay⟩ :=
    laid start within_nil apart
  have shape : Lexeme.Shape (some (.connective connective)) keyword :=
    .connective isKeyword.isWord isKeyword
  have boundary : ∀ c ∈ behind.head?,
      ¬ Lexeme.Continues ⟨some (.connective connective), keyword⟩ c := by
    intro c next continues
    simp [Lexeme.Continues, stops c next] at continues
  have whole := within_append.2 ⟨blankTrailing, blank⟩
  obtain ⟨token, next, kind, text, spacedBefore, spacedAfter, layToken⟩ :=
    exists_token inside whole shape boundary
  refine ⟨used, token, next, spelled, kind, text, fun spaced => ?_, fun ends => ?_, spacedAfter,
    fun scans => ?_⟩
  · simp [spacedBefore, spaced]
  · -- The gap in front of the token ends the text, which does not end in a blank.
    obtain ⟨body, rfl⟩ := isSuffix
    have none := eq_nil_of_suffix whole (by simp) ends
    simpa [none] using spacedBefore
  · have scansKeyword := layToken scans
    simp only [List.append_assoc, List.nil_append] at scansKeyword lay ⊢
    exact lay scansKeyword

/-- A connective behind a text and a blank is a token of its own. -/
theorem Tree.LaidBy.exists_spaced_keyword {behind : Text} (laid : tree.LaidBy first) (start : Nat)
    (isKeyword : IsKeyword connective keyword) (stops : StopsAt isWordChar behind) :
    ∃ used token next, Spells maxDepth tree used ∧ token.kind = .connective connective ∧
      token.text = keyword ∧ token.spacedBefore = true ∧
      token.spacedAfter = beginsBlank behind ∧ ∀ {rest}, Scans next behind rest →
        Scans start (first ++ [.scalar ' '] ++ keyword ++ behind) (used ++ token :: rest) := by
  have apart : Apart first ([.scalar ' '] ++ keyword ++ behind) :=
    apart_cons first (keyword ++ behind) (.inl rfl)
  obtain ⟨used, token, next, spelled, kind, text, spaced, -, spacedAfter, lay⟩ :=
    laid.exists_keyword start isKeyword within_space apart stops
  exact ⟨used, token, next, spelled, kind, text, spaced (by simp), spacedAfter, lay⟩

/-! ## What is reported -/

/-- A text is rejected for what follows the tokens of a tree. -/
theorem parse_of_breaks {raw : Text} {used rest : List Token} (columns : allowed ≠ [])
    (scans : Scans 0 raw (used ++ rest)) (spelled : Tree.Spells Tree.maxDepth tree used)
    (breaks : Tree.Breaks raw Tree.maxDepth rest rejection) :
    parse allowed raw = .error rejection := by
  have nonempty : used ++ rest ≠ [] := by
    obtain ⟨token, later, rfl, -⟩ := spelled.first
    simp
  exact parse_of_chain_eq_error columns scans nonempty (Tree.chain_of_breaks spelled breaks)

/-- A connective needs an operand behind it, at the end of a text as well as in front of a
parenthesis. -/
theorem parse_dangling {behind : Text} (columns : allowed ≠ []) (laid : tree.LaidBy first)
    (isKeyword : IsKeyword connective keyword) (stops : StopsAt isWordChar behind)
    (scansBehind : ∀ position, ∃ rest, Tree.atGroupEnd rest = true ∧ Scans position behind rest) :
    parse allowed (first ++ [.scalar ' '] ++ keyword ++ behind) =
      .error (.expecting .cardinalityMismatch keyword "condition") := by
  obtain ⟨used, token, next, spelled, kind, rfl, -, -, lay⟩ :=
    laid.exists_spaced_keyword 0 isKeyword stops
  obtain ⟨rest, ends, scansRest⟩ := scansBehind next
  have refused := Tree.connectiveBefore_of_atGroupEnd kind ends
  exact parse_of_breaks columns (lay scansRest) spelled (.connective (by simp [kind]) refused)

/-- A connective needs an operand behind it inside of a group too. -/
theorem parse_dangling_inside (columns : allowed ≠ []) (laid : tree.LaidBy first)
    (isKeyword : IsKeyword connective keyword) (room : tree.depth < 32) :
    parse allowed ([.scalar '('] ++ first ++ [.scalar ' '] ++ keyword ++ [.scalar ')']) =
      .error (.expecting .cardinalityMismatch keyword "condition") := by
  have stops : StopsAt isWordChar [.scalar ')'] := stopsAt_cons.2 (by decide)
  obtain ⟨opening, inside, opens, -, layOpening⟩ := exists_opening 0 within_nil
    (first ++ [.scalar ' '] ++ keyword ++ [.scalar ')'])
  obtain ⟨used, token, next, spelled, kind, rfl, -, -, lay⟩ :=
    laid.exists_spaced_keyword inside isKeyword stops
  obtain ⟨closing, closes, -, scansClosing⟩ := exists_closing next within_nil
  have ends : Tree.atGroupEnd [closing] = true := by simp [Tree.atGroupEnd, closes]
  have refused := Tree.connectiveBefore_of_atGroupEnd kind ends
  have inner := spelled.of_depth_le (Nat.le_of_lt_succ room)
  have scans := layOpening (lay scansClosing)
  simp only [List.append_assoc, List.nil_append] at scans ⊢
  refine parse_of_chain_eq_error columns scans (by simp) (Tree.chain_inner_eq_error opens ?_)
  exact Tree.chain_of_breaks inner (.connective (by simp [kind]) refused)

/-- A connective needs an operand in front of it. -/
theorem parse_leading (columns : allowed ≠ []) (laid : tree.LaidBy first)
    (isKeyword : IsKeyword connective keyword) :
    parse allowed (keyword ++ [.scalar ' '] ++ first) =
      .error (.expecting .cardinalityMismatch keyword "column") := by
  have shape : Lexeme.Shape (some (.connective connective)) keyword :=
    .connective isKeyword.isWord isKeyword
  have apart : Apart keyword ([.scalar ' '] ++ first) := apart_cons keyword first (.inl rfl)
  obtain ⟨token, next, kind, rfl, -, -, layToken⟩ :=
    exists_token 0 within_nil shape (shape.not_continues apart)
  obtain ⟨used, -, scans⟩ := laid.exists_scans next within_space
  have whole := layToken scans
  rw [List.nil_append, ← List.append_assoc] at whole
  exact parse_of_chain_eq_error columns whole (by simp) (Tree.chain_of_connective kind)

/-- Two operands need a connective between them. -/
theorem parse_unjoined {right : Filter} (columns : allowed ≠ []) (laid : tree.LaidBy first)
    (nonempty : second ≠ []) (read : parse allowed second = .ok right) :
    ∃ token rest, tokenize second = .ok (token :: rest) ∧
      parse allowed (first ++ [.scalar ' '] ++ second) =
        .error (.expecting .cardinalityMismatch token.text "AND or OR") := by
  obtain ⟨tokens, tree, cut, isTree, -, -⟩ := (parse_eq_ok_iff_tree columns nonempty).1 read
  obtain ⟨token, rest, rfl, starts⟩ := (Tree.ofTokens_eq_ok_iff.1 isTree).first
  refine ⟨token, rest, cut, ?_⟩
  have apart : Apart first ([.scalar ' '] ++ second) := apart_cons first second (.inl rfl)
  obtain ⟨gap, used, next, blank, -, spelled, lay⟩ := laid 0 within_nil apart
  obtain ⟨gapEnd, _, behind, blankEnd, -, _ | ⟨kept, keptRest⟩, layLater⟩ :=
    (tokenize_eq_ok_iff.1 cut).lay next (within_append.2 ⟨blank, within_space⟩) (apart_nil second)
  have scansLater := layLater (.blanks (by simpa using blankEnd))
  have scans := lay (by simpa using scansLater)
  rw [← kept.kind] at starts
  rw [← kept.text]
  exact parse_of_breaks columns (by simpa using scans) spelled (Tree.breaks_of_operand starts)

/-- A group needs a parenthesis that closes it. -/
theorem parse_unclosed (columns : allowed ≠ []) (laid : tree.LaidBy first) :
    parse allowed ([.scalar '('] ++ first) = .error (.expecting .malformed "("
      (if tree.depth < 32 then "closing parenthesis" else "at most 32 nested groups")) := by
  obtain ⟨opening, inside, opens, text, layOpening⟩ := exists_opening 0 within_nil first
  obtain ⟨used, spelled, scansFirst⟩ := laid.exists_scans inside within_nil
  have scans := layOpening scansFirst
  by_cases room : tree.depth < 32
  · have inner := spelled.of_depth_le (Nat.le_of_lt_succ room)
    rw [if_pos room]
    refine parse_of_chain_eq_error columns scans (by simp) ?_
    exact (Tree.chain_unclosed_eq_error opens inner).trans (by rw [text]; rfl)
  · rw [if_neg room]
    rw [← List.append_nil used] at scans
    exact parse_of_deep columns scans opens spelled room

/-- A parenthesis that closes needs a group. -/
theorem parse_unopened (columns : allowed ≠ []) (laid : tree.LaidBy first) :
    parse allowed (first ++ [.scalar ')']) =
      .error (.expecting .malformed ")" "matching opening parenthesis") := by
  have apart : Apart first [.scalar ')'] := apart_cons first [] (.inr (.inr rfl))
  obtain ⟨gap, used, next, blank, -, spelled, lay⟩ := laid 0 within_nil apart
  obtain ⟨closing, closes, text, scansClosing⟩ := exists_closing next blank
  refine parse_of_scans_eq_error columns (lay scansClosing) (by simp) ?_
  rw [Tree.ofTokens_of_unopened spelled closes, text]
  rfl

/-- A group needs a condition. -/
theorem parse_empty_group (columns : allowed ≠ []) (laid : tree.LaidBy first)
    (isKeyword : IsKeyword connective keyword) :
    parse allowed (first ++ [.scalar ' '] ++ keyword ++ [.scalar ' ', .scalar '(', .scalar ')']) =
      .error (.expecting .malformed ")" "column") := by
  have stops : StopsAt isWordChar [.scalar ' ', .scalar '(', .scalar ')'] :=
    stopsAt_cons.2 (by decide)
  obtain ⟨used, token, next, spelled, kind, -, spacedBefore, spacedAfter, lay⟩ :=
    laid.exists_spaced_keyword 0 isKeyword stops
  obtain ⟨opening, inside, opens, -, layOpening⟩ := exists_opening next within_space [.scalar ')']
  obtain ⟨closing, closes, text, scansClosing⟩ := exists_closing inside within_nil
  have joined : Tree.connectiveBefore token [opening, closing] = .ok connective :=
    Tree.connectiveBefore_eq_ok_iff.2
      ⟨⟨kind, spacedBefore, spacedAfter⟩, by simp [Tree.atGroupEnd, opens]⟩
  refine parse_of_breaks columns (lay (layOpening scansClosing)) spelled
    (.operand joined (Tree.chain_inner_eq_error opens ?_))
  exact (Tree.chain_of_closing closes).trans (by rw [text]; rfl)

/-- A connective needs a blank on both sides. -/
theorem parse_unspaced {gap behind : Text} (columns : allowed ≠ []) (laid : tree.LaidBy first)
    (isKeyword : IsKeyword connective keyword) (blank : Within isAsciiBlank gap)
    (apart : Apart first (gap ++ keyword ++ behind)) (stops : StopsAt isWordChar behind)
    (unspaced : endsBlank (first ++ gap) = false ∨ beginsBlank behind = false)
    (scansBehind : ∀ position, ∃ rest, Tree.atGroupEnd rest = false ∧ Scans position behind rest) :
    parse allowed (first ++ gap ++ keyword ++ behind) =
      .error (.expecting .malformed keyword "whitespace around connective") := by
  obtain ⟨used, token, next, spelled, kind, rfl, -, touches, spacedAfter, lay⟩ :=
    laid.exists_keyword 0 isKeyword blank apart stops
  obtain ⟨rest, inside, scansRest⟩ := scansBehind next
  have missing : (token.spacedBefore && token.spacedAfter) = false := by
    rw [Bool.and_eq_false_iff, spacedAfter]
    exact unspaced.imp_left touches
  have refused := Tree.connectiveBefore_of_unspaced kind inside missing
  exact parse_of_breaks columns (lay scansRest) spelled (.connective (by simp [kind]) refused)

end

/-- Texts that are read are rejected with a connective, a blank or a parenthesis too many or too few
between or around them. A connective without an operand beside it, and an operand without a
connective beside it, are a mismatch; a parenthesis without its other half, an empty group and a
connective without a blank beside it are malformed. -/
theorem parse_broken {allowed : AllowList} {first second keyword : Text} {left right : Filter}
    {connective : Connective} (columns : allowed ≠ []) (nonempty : first ≠ [])
    (nonemptySecond : second ≠ []) (read : parse allowed first = .ok left)
    (readSecond : parse allowed second = .ok right) (isKeyword : IsKeyword connective keyword) :
    BrokenCombinations allowed first second keyword left := by
  obtain ⟨tree, laid, depth⟩ := exists_laidBy columns nonempty read
  obtain ⟨other, laidSecond, -⟩ := exists_laidBy columns nonemptySecond readSecond
  have scansSecond : ∀ {gap : Text}, Within isAsciiBlank gap → ∀ position, ∃ rest,
      Tree.atGroupEnd rest = false ∧ Scans position (gap ++ second) rest := by
    intro gap blank position
    obtain ⟨used, spelled, scans⟩ := laidSecond.exists_scans position blank
    exact ⟨used, by simpa using spelled.atGroupEnd [], scans⟩
  constructor
  case dangling =>
    simpa [Rejection.expecting] using parse_dangling columns laid isKeyword stopsAt_nil
      fun position => ⟨[], rfl, .blanks within_nil⟩
  case danglingClosed =>
    refine parse_dangling columns laid isKeyword (stopsAt_cons.2 (by decide)) fun position => ?_
    obtain ⟨closing, closes, -, scans⟩ := exists_closing position within_nil
    exact ⟨[closing], by simp [Tree.atGroupEnd, closes], scans⟩
  case danglingInside =>
    intro room
    exact parse_dangling_inside columns laid isKeyword (depth ▸ room)
  case leading => exact parse_leading columns laid isKeyword
  case unjoined => exact parse_unjoined columns laid nonemptySecond readSecond
  case unclosed =>
    rw [← depth]
    exact parse_unclosed columns laid
  case unopened => exact parse_unopened columns laid
  case emptyGroup => exact parse_empty_group columns laid isKeyword
  case unspacedBefore =>
    intro ends
    have apart : Apart first ([] ++ keyword ++ ([.scalar ' '] ++ second)) :=
      apart_keyword isKeyword _ ends
    have noBlank : endsBlank (first ++ []) = false := by
      rw [List.append_nil, endsBlank]
      rcases ends with isQuote | closes
      · rw [isQuote]
        rfl
      · rw [closes]
        rfl
    have refused := parse_unspaced columns laid isKeyword within_nil apart
      (stopsAt_cons.2 (by decide)) (.inl noBlank) (scansSecond within_space)
    simpa [Rejection.expecting] using refused
  case unspacedAfter =>
    intro opens
    have stops : StopsAt isWordChar second := by
      rw [StopsAt, opens]
      rintro _ ⟨⟩
      decide
    have noBlank : beginsBlank second = false := by
      rw [beginsBlank, opens]
      rfl
    have apart : Apart first ([.scalar ' '] ++ keyword ++ second) :=
      apart_cons first (keyword ++ second) (.inl rfl)
    exact parse_unspaced columns laid isKeyword within_space apart stops (.inr noBlank)
      (scansSecond within_nil)

/-- Two groups are not joined by a keyword that is the last thing in the text or in a group around
it, nor by one that touches a parenthesis. -/
theorem parse_broken_groups :
    parse ["n", "s"] "(s='a' and n>=1.5) oR" =
        .error ⟨.cardinalityMismatch, some "oR", some "condition"⟩ ∧
      parse ["n", "s"] "((s='a' and n>=1.5) oR)" =
        .error ⟨.cardinalityMismatch, some "oR", some "condition"⟩ ∧
      parse ["n", "s"] "(s='a' and n>=1.5)oR (n<2)" =
        .error ⟨.malformed, some "oR", some "whitespace around connective"⟩ ∧
      parse ["n", "s"] "(s='a' and n>=1.5) oR(n<2)" =
        .error ⟨.malformed, some "oR", some "whitespace around connective"⟩ := by
  have isFirst : parse ["n", "s"] "(s='a' and n>=1.5)" =
      .ok ⟨[⟨"s", .equal, .string "'a'" "a"⟩, ⟨"n", .greaterOrEqual, .number "1.5"⟩], [.and],
        [⟨0, 1⟩]⟩ := by
    decide +kernel
  have isSecond : parse ["n", "s"] "(n<2)" =
      .ok ⟨[⟨"n", .less, .number "2"⟩], [], [⟨0, 0⟩]⟩ := by
    decide +kernel
  have isKeyword : IsKeyword .or "oR" := rfl
  have broken := parse_broken (by decide) (by decide) (by decide) isFirst isSecond isKeyword
  exact ⟨broken.dangling, broken.danglingInside (by decide), broken.unspacedBefore (.inr rfl),
    broken.unspacedAfter rfl⟩

end ListQuery.Filter
