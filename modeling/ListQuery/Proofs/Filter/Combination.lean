import ListQuery.Proofs.Filter.Adjacency
import ListQuery.Proofs.Filter.Fault
import ListQuery.Proofs.Filter.Recognition

/-!
# Putting filter texts together

Texts that are read stay readable next to each other: a connective between two of them joins their
filters, and parentheses around one enclose its filter as long as there is room for one more group.
The first half works on the grammar, where an expression may be followed by a connective and another
one. The second half lays the tokens of a text into a longer one, where the descent meets them
again.
-/

namespace ListQuery.Filter

open Text

/-! ## Sentences -/

/-- Joining filters is associative. -/
theorem join_assoc (left middle right : Filter) (first second : Connective) :
    (left.join first middle).join second right = left.join first (middle.join second right) := by
  have moved : ∀ span : Span,
      span.shift (left.conditions.length + middle.conditions.length) =
        (span.shift middle.conditions.length).shift left.conditions.length := by
    intro span
    simp only [Span.shift, Span.mk.injEq]
    omega
  simp [join, moved, Function.comp_def]

section

variable {allowed : AllowList} {phrase : Phrase} {depth : Nat} {first second keyword : Text}
  {left right : Filter} {connective : Connective}

/-- Two expressions with a connective between them are one expression, which writes the joined
filters. -/
theorem Derives.joined {before after : Text} (derives : Derives allowed phrase depth first left)
    (gapBefore : Within isAsciiBlank before) (spacedBefore : before ≠ [])
    (isKeyword : IsKeyword connective keyword)
    (gapAfter : Within isAsciiBlank after) (spacedAfter : after ≠ [])
    (later : Derives allowed .expression depth second right) :
    Derives allowed .expression depth (first ++ before ++ keyword ++ after ++ second)
      (left.join connective right) := by
  induction derives with
  | condition admissible gap gapBehind =>
    exact .chain (.condition admissible gap gapBehind) gapBefore spacedBefore isKeyword gapAfter
      spacedAfter later
  | group gap expression gapBehind ih =>
    exact .chain (.group gap expression gapBehind) gapBefore spacedBefore isKeyword gapAfter
      spacedAfter later
  | alone operand ih => exact ih later
  | chain operand gap spaced keyword gapBehind spacedBehind expression ih ihRest =>
    have whole := Derives.chain operand gap spaced keyword gapBehind spacedBehind (ihRest later)
    simpa only [join_assoc, List.append_assoc] using whole

/-- A phrase needs no more room than the filter that it writes is nested deeply. -/
theorem Derives.of_nesting_le {room : Nat} (derives : Derives allowed phrase depth first left)
    (fits : left.nesting ≤ room) : Derives allowed phrase room first left := by
  induction derives generalizing room with
  | condition admissible gapBefore gapAfter => exact .condition admissible gapBefore gapAfter
  | group gapBefore expression gapAfter ih =>
    rw [nesting_enclose expression.balanced.conditions_ne_nil] at fits
    obtain ⟨less, rfl⟩ : ∃ less, room = less + 1 := ⟨room - 1, by omega⟩
    exact .group gapBefore (ih (Nat.le_of_succ_le_succ fits)) gapAfter
  | alone operand ih => exact .alone (ih fits)
  | chain operand gapBefore spacedBefore isKeyword gapAfter spacedAfter expression ih ihRest =>
    rw [nesting_join _ operand.balanced expression.balanced, max_le_iff] at fits
    exact .chain (ih fits.1) gapBefore spacedBefore isKeyword gapAfter spacedAfter (ihRest fits.2)

/-- A sentence writes a filter that is nested at most 32 groups deep. -/
theorem Sentence.nesting_le (sentence : Sentence allowed first left) : left.nesting ≤ 32 := by
  obtain ⟨_, body, _, -, -, -, derives⟩ := sentence
  exact nesting_le_iff.2 fun index _ => derives.balanced.shallow index

/-- Two sentences with a connective between blanks are a sentence. -/
theorem Sentence.joined (sentence : Sentence allowed first left)
    (isKeyword : IsKeyword connective keyword) (later : Sentence allowed second right) :
    Sentence allowed (first ++ [.scalar ' '] ++ keyword ++ [.scalar ' '] ++ second)
      (left.join connective right) := by
  obtain ⟨front, body, gap, rfl, blankFront, blankGap, derives⟩ := sentence
  obtain ⟨gapLater, bodyLater, behind, rfl, blankLater, blankBehind, derivesLater⟩ := later
  have before : Within isAsciiBlank (gap ++ [.scalar ' ']) :=
    within_append.2 ⟨blankGap, within_space⟩
  have after : Within isAsciiBlank ([.scalar ' '] ++ gapLater) :=
    within_append.2 ⟨within_space, blankLater⟩
  have whole := derives.joined before (by simp) isKeyword after (by simp) derivesLater
  exact ⟨front, _, behind, by simp, blankFront, blankBehind, whole⟩

/-- A sentence in parentheses is a sentence, if there is room for one more group. -/
theorem Sentence.enclosed (sentence : Sentence allowed first left) (room : left.nesting < 32) :
    Sentence allowed ([.scalar '('] ++ first ++ [.scalar ')']) left.enclose := by
  obtain ⟨front, body, behind, rfl, blankFront, blankBehind, derives⟩ := sentence
  have inner := derives.of_nesting_le (Nat.le_of_lt_succ room)
  have group := Derives.alone (.group blankFront inner blankBehind)
  exact ⟨[], _, [], by simp, within_nil, within_nil, group⟩

end

/-! ## Tokens -/

/-- What is kept of two lists one after the other is kept of each. -/
theorem exists_kept_append {front back laid : List Token}
    (kept : List.Forall₂ Token.Kept (front ++ back) laid) :
    ∃ left right, laid = left ++ right ∧ List.Forall₂ Token.Kept front left ∧
      List.Forall₂ Token.Kept back right := by
  induction front generalizing laid with
  | nil => exact ⟨[], laid, rfl, .nil, kept⟩
  | cons token front ih =>
    cases kept with
    | cons first rest =>
      obtain ⟨left, right, rfl, keptFront, keptBack⟩ := ih rest
      exact ⟨_ :: left, right, rfl, .cons first keptFront, keptBack⟩

/-- Tokens of a clause spell it wherever they stand. -/
theorem Tree.SpellsClause.kept {clause : Clause} {tokens laid : List Token}
    (spelled : SpellsClause clause tokens) (kept : List.Forall₂ Token.Kept tokens laid) :
    SpellsClause clause laid := by
  cases spelled with
  | @intro column symbol literal comparator isColumn isSymbol fits =>
    obtain _ | ⟨keptColumn, _ | ⟨keptSymbol, _ | ⟨keptLiteral, _ | _⟩⟩⟩ := kept
    rename_i columnLaid symbolLaid literalLaid
    have fitsLaid : FitsBehind comparator literalLaid := by
      rwa [FitsBehind, keptLiteral.kind, keptLiteral.text]
    have spelledLaid := SpellsClause.intro (keptColumn.kind.trans isColumn)
      (keptSymbol.kind.trans isSymbol) fitsLaid
    rwa [keptColumn.text, keptLiteral.text] at spelledLaid

/-- A connective joins wherever it stands. -/
theorem Tree.Joins.kept {connective : Connective} {token laid : Token}
    (joins : Joins connective token) (kept : token.Kept laid) : Joins connective laid where
  kind := kept.kind.trans joins.kind
  spacedBefore := kept.spacedBefore joins.spacedBefore
  spacedAfter := kept.spacedAfter joins.spacedAfter

/-- Tokens spell a tree wherever they stand. -/
theorem Tree.Spells.kept {room : Nat} {tree : Tree} {tokens laid : List Token}
    (spelled : Spells room tree tokens) (kept : List.Forall₂ Token.Kept tokens laid) :
    Spells room tree laid := by
  induction spelled generalizing laid with
  | clause spelled => exact .clause (spelled.kept kept)
  | group opens spelled closes ih =>
    obtain _ | ⟨keptOpening, keptBehind⟩ := kept
    obtain ⟨inner, _, rfl, keptInner, _ | ⟨keptClosing, _ | _⟩⟩ := exists_kept_append keptBehind
    exact .group (keptOpening.kind.trans opens) (ih keptInner) (keptClosing.kind.trans closes)
  | clauseThen spelled joins spelledRest ih =>
    obtain ⟨front, _, rfl, keptClause, _ | ⟨keptToken, keptRest⟩⟩ := exists_kept_append kept
    exact .clauseThen (spelled.kept keptClause) (joins.kept keptToken) (ih keptRest)
  | groupThen opens spelled closes joins spelledRest ihInner ihRest =>
    obtain _ | ⟨keptOpening, keptBehind⟩ := kept
    obtain ⟨inner, _, rfl, keptInner, _ | ⟨keptClosing, _ | ⟨keptToken, keptRest⟩⟩⟩ :=
      exists_kept_append keptBehind
    exact .groupThen (keptOpening.kind.trans opens) (ihInner keptInner)
      (keptClosing.kind.trans closes) (joins.kept keptToken) (ihRest keptRest)

/-- A text is made of tokens that spell a tree, whatever stands around it. Only blanks at its end
are left to what follows. -/
def Tree.LaidBy (tree : Tree) (text : Text) : Prop :=
  ∀ (start : Nat) {front behind : Text}, Within isAsciiBlank front → Apart text behind →
    ∃ gap used next, Within isAsciiBlank gap ∧ gap <:+ front ++ text ∧
      Spells maxDepth tree used ∧ ∀ {rest}, Scans next (gap ++ behind) rest →
        Scans start (front ++ text ++ behind) (used ++ rest)

/-- A text that is read lays the tree of its filter. -/
theorem exists_laidBy {allowed : AllowList} {raw : Text} {filter : Filter} (columns : allowed ≠ [])
    (nonempty : raw ≠ []) (read : parse allowed raw = .ok filter) :
    ∃ tree : Tree, tree.LaidBy raw ∧ tree.depth = filter.nesting := by
  obtain ⟨tokens, tree, cut, isTree, -, describes⟩ :=
    (parse_eq_ok_iff_tree columns nonempty).1 read
  refine ⟨tree, fun start front behind blank apart => ?_, describes.nesting.symm⟩
  obtain ⟨gap, laid, next, blankGap, isSuffix, kept, lay⟩ :=
    (tokenize_eq_ok_iff.1 cut).lay start blank apart
  exact ⟨gap, laid, next, blankGap, isSuffix, (Tree.ofTokens_eq_ok_iff.1 isTree).kept kept, lay⟩

/-- A text that lays a tree does so at the end of a longer one. -/
theorem Tree.LaidBy.exists_scans {tree : Tree} {front text : Text} (laid : tree.LaidBy text)
    (start : Nat) (blank : Within isAsciiBlank front) :
    ∃ used, Spells maxDepth tree used ∧ Scans start (front ++ text) used := by
  obtain ⟨gap, used, next, blankGap, -, spelled, lay⟩ := laid start blank (apart_nil text)
  have scans := lay (.blanks (by simpa using blankGap))
  exact ⟨used, spelled, by simpa using scans⟩

/-- A text is rejected for its tokens as they are. -/
theorem parse_of_scans_eq_error {allowed : AllowList} {raw : Text} {tokens : List Token}
    {rejection : Rejection} (columns : allowed ≠ []) (scans : Scans 0 raw tokens)
    (nonempty : tokens ≠ []) (refused : Tree.ofTokens raw tokens = .error rejection) :
    parse allowed raw = .error rejection := by
  have cut := tokenize_eq_ok_iff.2 scans
  have someText : raw ≠ [] := by
    rintro rfl
    exact nonempty (Except.ok.inj (cut.symm.trans (tokenize_eq_ok_iff.2 (.blanks within_nil))))
  rw [parse_of_ne_nil columns someText, cut]
  exact bind_eq_error_iff.2 (.inl refused)

/-- A text is rejected where the descent stops in its tokens. -/
theorem parse_of_chain_eq_error {allowed : AllowList} {raw : Text} {tokens : List Token}
    {rejection : Rejection} (columns : allowed ≠ []) (scans : Scans 0 raw tokens)
    (nonempty : tokens ≠ []) (refused : Tree.chain raw Tree.maxDepth tokens = .error rejection) :
    parse allowed raw = .error rejection :=
  parse_of_scans_eq_error columns scans nonempty
    (Tree.ofTokens_of_chain_eq_error nonempty refused)

/-- A parenthesis that opens is a token of its own. -/
theorem exists_opening {gap : Text} (position : Nat) (blank : Within isAsciiBlank gap)
    (behind : Text) :
    ∃ opening : Token, ∃ next, opening.kind = .openGroup ∧ opening.text = [.scalar '('] ∧
      ∀ {rest}, Scans next behind rest →
        Scans position (gap ++ [.scalar '('] ++ behind) (opening :: rest) := by
  have boundary : ∀ c ∈ behind.head?, ¬ Lexeme.Continues ⟨some .openGroup, [.scalar '(']⟩ c :=
    fun _ _ => id
  obtain ⟨opening, next, kind, text, -, -, lay⟩ :=
    exists_token position blank .openGroup boundary
  exact ⟨opening, next, kind, text, lay⟩

/-- A parenthesis that closes is a token of its own. -/
theorem exists_closing {gap : Text} (position : Nat) (blank : Within isAsciiBlank gap) :
    ∃ closing : Token, closing.kind = .closeGroup ∧ closing.text = [.scalar ')'] ∧
      Scans position (gap ++ [.scalar ')']) [closing] := by
  have boundary : ∀ c ∈ ([] : Text).head?,
      ¬ Lexeme.Continues ⟨some .closeGroup, [.scalar ')']⟩ c := by
    simp
  obtain ⟨closing, next, kind, text, -, -, lay⟩ :=
    exists_token position blank .closeGroup boundary
  exact ⟨closing, kind, text, by simpa using lay (.blanks within_nil)⟩

/-- A token that opens a group is an opening parenthesis. -/
theorem Scans.text_of_opens {position : Nat} {text : Text} {tokens : List Token}
    (scans : Scans position text tokens) :
    ∀ token ∈ tokens, token.kind = .openGroup → token.text = [.scalar '('] := by
  intro token member opens
  obtain ⟨-, -, -, -, shape, -⟩ := scans.exists_around member
  rw [opens] at shape
  generalize token.text = opening at shape
  cases shape
  rfl

/-- A text is rejected if it opens a group in front of tokens that are nested as deeply as groups
may be, whatever follows them. -/
theorem parse_of_deep {allowed : AllowList} {raw : Text} {tree : Tree} {opening : Token}
    {used rest : List Token} (columns : allowed ≠ [])
    (scans : Scans 0 raw (opening :: (used ++ rest))) (opens : opening.kind = .openGroup)
    (spelled : Tree.Spells Tree.maxDepth tree used) (deep : ¬ tree.depth < 32) :
    parse allowed raw = .error Tree.tooDeep := by
  refine parse_of_chain_eq_error columns scans (by simp) (Tree.chain_inner_eq_error opens ?_)
  have texts : ∀ token ∈ used, token.kind = .openGroup → token.text = [.scalar '('] :=
    fun token member => scans.text_of_opens token (by simp [member])
  have deeper : 31 < tree.depth := by omega
  exact Tree.chain_of_deep spelled texts deeper rest

/-- A text that is nested as deeply as groups may be is rejected in parentheses. -/
theorem parse_enclosed_of_deep {allowed : AllowList} {raw : Text} {filter : Filter}
    (columns : allowed ≠ []) (nonempty : raw ≠ []) (read : parse allowed raw = .ok filter)
    (deep : filter.nesting = 32) :
    parse allowed ([.scalar '('] ++ raw ++ [.scalar ')']) = .error Tree.tooDeep := by
  obtain ⟨tree, laid, depth⟩ := exists_laidBy columns nonempty read
  obtain ⟨opening, inside, opens, -, layOpening⟩ :=
    exists_opening 0 within_nil (raw ++ [.scalar ')'])
  have apart : Apart raw [.scalar ')'] := apart_cons raw [] (.inr (.inr rfl))
  obtain ⟨gap, used, next, blank, -, spelled, lay⟩ := laid inside within_nil apart
  obtain ⟨closing, -, -, scansClosing⟩ := exists_closing next blank
  have scans := layOpening (lay scansClosing)
  rw [← List.append_assoc] at scans
  exact parse_of_deep columns scans opens spelled (by omega)

/-! ## Filters -/

/-- A connective between two texts that are read, with a blank on both sides, joins their filters.
Parentheses around one enclose its filter if it is nested less than 32 groups deep. It is nested no
deeper than that, and if it is nested that deep the parentheses are one group too many. -/
theorem parse_combined {allowed : AllowList} {first second keyword : Text} {left right : Filter}
    {connective : Connective} (columns : allowed ≠ []) (nonempty : first ≠ [])
    (nonemptySecond : second ≠ []) (read : parse allowed first = .ok left)
    (readSecond : parse allowed second = .ok right) (isKeyword : IsKeyword connective keyword) :
    parse allowed (first ++ [.scalar ' '] ++ keyword ++ [.scalar ' '] ++ second) =
        .ok (left.join connective right) ∧
      (left.nesting < 32 →
        parse allowed ([.scalar '('] ++ first ++ [.scalar ')']) = .ok left.enclose) ∧
      left.nesting ≤ 32 ∧
      (left.nesting = 32 →
        parse allowed ([.scalar '('] ++ first ++ [.scalar ')']) =
          .error ⟨.malformed, some "(", some "at most 32 nested groups"⟩) := by
  have sentence := sentence_of_parse columns nonempty read
  have sentenceSecond := sentence_of_parse columns nonemptySecond readSecond
  refine ⟨?_, fun room => ?_, sentence.nesting_le, ?_⟩
  · exact parse_of_sentence columns (sentence.joined isKeyword sentenceSecond)
  · exact parse_of_sentence columns (sentence.enclosed room)
  · intro deep
    exact parse_enclosed_of_deep columns nonempty read deep

/-- A group and a chain with blanks at the seam are joined by a keyword in mixed case, and the group
is enclosed once more. What is nested 32 groups deep is not. -/
theorem parse_combined_groups :
    parse ["n", "s"] "(s='it''s' or n>=1.5) aNd  n<2 OR (n=3)\t" =
        .ok ⟨[⟨"s", .equal, .string "'it''s'" "it's"⟩, ⟨"n", .greaterOrEqual, .number "1.5"⟩,
          ⟨"n", .less, .number "2"⟩, ⟨"n", .equal, .number "3"⟩], [.or, .and, .or],
          [⟨0, 1⟩, ⟨3, 3⟩]⟩ ∧
      parse ["n", "s"] "((s='it''s' or n>=1.5))" =
        .ok ⟨[⟨"s", .equal, .string "'it''s'" "it's"⟩, ⟨"n", .greaterOrEqual, .number "1.5"⟩],
          [.or], [⟨0, 1⟩, ⟨0, 1⟩]⟩ ∧
      parse ["n", "s"] ([.scalar '('] ++
          of "((((((((((((((((((((((((((((((((n=1))))))))))))))))))))))))))))))))" ++
          [.scalar ')']) =
        .error ⟨.malformed, some "(", some "at most 32 nested groups"⟩ := by
  have isSecond : parse ["n", "s"] " n<2 OR (n=3)\t" =
      .ok ⟨[⟨"n", .less, .number "2"⟩, ⟨"n", .equal, .number "3"⟩], [.or], [⟨1, 1⟩]⟩ := by
    decide +kernel
  have isDeepest : parse ["n", "s"]
      "((((((((((((((((((((((((((((((((n=1))))))))))))))))))))))))))))))))" =
      .ok ⟨[⟨"n", .equal, .number "1"⟩], [], List.replicate 32 ⟨0, 0⟩⟩ := by
    decide +kernel
  have isFirst : parse ["n", "s"] "(s='it''s' or n>=1.5)" =
      .ok ⟨[⟨"s", .equal, .string "'it''s'" "it's"⟩, ⟨"n", .greaterOrEqual, .number "1.5"⟩],
        [.or], [⟨0, 1⟩]⟩ := by
    decide +kernel
  have isKeyword : IsKeyword .and "aNd" := rfl
  have combined := parse_combined (by decide) (by decide) (by decide) isFirst isSecond isKeyword
  have deep := parse_combined (by decide) (by decide) (by decide) isDeepest isSecond isKeyword
  exact ⟨combined.1, combined.2.1 (by decide), deep.2.2.2 (by decide)⟩

end ListQuery.Filter
