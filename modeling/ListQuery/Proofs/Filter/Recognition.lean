import ListQuery.Proofs.Filter.Descent
import ListQuery.Proofs.Filter.Literal
import ListQuery.Proofs.Filter.Scan
import ListQuery.Proofs.Filter.Tree

/-!
# Reading recognises the grammar

A filter text is read exactly if it is a sentence of the grammar, and as the filter that it
writes. Towards the grammar, tokens that spell a tree are found in the text one after the other,
each with the gap in front of it. Away from it, a derivation lays its tokens into the text.
-/

namespace ListQuery.Filter

open Text

/-! ## From tokens to the grammar -/

/-- A literal that may stand behind a comparator is read as one of the grammar. -/
theorem comparable_of_fits {comparator : Comparator} {token : Token} {literal : Literal}
    (fits : Tree.FitsBehind comparator token)
    (shape : Lexeme.Shape (some token.kind) token.text)
    (read : Literal.ofToken? token.text = some literal) :
    Comparable comparator literal ∧ literal.raw = token.text := by
  obtain ⟨kind, text, position, before, after⟩ := token
  rcases fits with ⟨rfl, strings⟩ | ⟨-, numbers, bounded⟩
  · cases shape with
    | quoted value =>
      cases (Literal.ofToken?_encode value).symm.trans read
      refine ⟨.string value ?_, rfl⟩
      cases comparator <;> simp_all [Comparator.comparesStrings]
    | doubleQuoted plain => simp [Literal.ofToken?_doubleQuoted] at read
  · have number := Tree.isBoundedNumber_iff.1 bounded
    simp [Literal.ofToken?_number number] at read
    subst read
    refine ⟨.number number ?_, rfl⟩
    rintro rfl
    simp [Comparator.comparesNumbers] at numbers

/-- A text starts, behind a gap, with a phrase that writes a filter, and goes on with some
tokens. -/
def Begins (allowed : AllowList) (phrase : Phrase) (depth : Nat) (text : Text) (filter : Filter)
    (rest : List Token) : Prop :=
  ∃ gap body after position, text = gap ++ body ++ after ∧ Within isAsciiBlank gap ∧
    beginsBlank text = decide (gap ≠ []) ∧ Derives allowed phrase depth body filter ∧
    Scans position after rest

/-- The tokens of a clause are a condition of the text. -/
theorem begins_clause {allowed : AllowList} {depth position : Nat} {text : Text}
    {clause : Clause} {condition : Condition} {tokens rest : List Token}
    (spelled : Tree.SpellsClause clause tokens) (listed : clause.column ∈ allowed)
    (read : Condition.ofClause clause = .ok condition)
    (scans : Scans position text (tokens ++ rest)) :
    Begins allowed .operand depth text (single condition) rest := by
  obtain ⟨literal, isLiteral, rfl⟩ := Condition.ofClause_eq_ok_iff.1 read
  cases spelled with
  | @intro column symbol token comparator isColumn isSymbol fits =>
    obtain ⟨gap, afterColumn, rfl, blank, columnShape, begins, -, -, scans⟩ := scans.first
    obtain ⟨before, afterSymbol, rfl, blankBefore, symbolShape, -, -, -, scans⟩ := scans.first
    obtain ⟨behind, after, rfl, blankBehind, literalShape, -, -, -, scans⟩ := scans.first
    obtain ⟨comparable, sameLiteral⟩ := comparable_of_fits fits literalShape isLiteral
    have sameSymbol : symbol.text = comparator.symbol := by
      rw [isSymbol] at symbolShape
      generalize symbol.text = symbolText at symbolShape
      cases symbolShape
      rfl
    have admissible : Condition.Admissible allowed ⟨column.text, comparator, literal⟩ := by
      rw [isColumn] at columnShape
      generalize column.text = columnText at columnShape listed
      cases columnShape with
      | identifier word unreserved => exact ⟨listed, word, unreserved, comparable⟩
    refine ⟨gap, _, after, _, ?_, blank, begins,
      .condition admissible blankBefore blankBehind, scans⟩
    simp [sameSymbol, sameLiteral]

/-- Tokens in parentheses are a group of the text. -/
theorem begins_group {allowed : AllowList} {depth position : Nat} {text : Text}
    {filter : Filter} {opening closing : Token} {tokens rest : List Token}
    (opens : opening.kind = .openGroup) (closes : closing.kind = .closeGroup)
    (scans : Scans position text (opening :: (tokens ++ closing :: rest)))
    (inner : ∀ {position text}, Scans position text (tokens ++ closing :: rest) →
      Begins allowed .expression depth text filter (closing :: rest)) :
    Begins allowed .operand (depth + 1) text filter.enclose rest := by
  obtain ⟨gap, afterOpening, rfl, blank, openingShape, begins, -, -, scans⟩ := scans.first
  obtain ⟨before, body, afterBody, _, rfl, blankBefore, -, derives, scans⟩ := inner scans
  obtain ⟨behind, after, rfl, blankBehind, closingShape, -, -, -, scans⟩ := scans.first
  have sameOpening : opening.text = [.scalar '('] := by
    rw [opens] at openingShape
    generalize opening.text = openingText at openingShape
    cases openingShape
    rfl
  have sameClosing : closing.text = [.scalar ')'] := by
    rw [closes] at closingShape
    generalize closing.text = closingText at closingShape
    cases closingShape
    rfl
  refine ⟨gap, _, after, _, ?_, blank, begins, .group blankBefore derives blankBehind, scans⟩
  simp [sameOpening, sameClosing]

/-- An operand, a connective and more operands are an expression of the text. -/
theorem begins_chain {allowed : AllowList} {depth : Nat} {text : Text} {left right : Filter}
    {connective : Connective} {token : Token} {tokens rest : List Token}
    (operand : Begins allowed .operand depth text left (token :: tokens))
    (joins : Tree.Joins connective token)
    (later : ∀ {position text}, Scans position text tokens →
      Begins allowed .expression depth text right rest) :
    Begins allowed .expression depth text (left.join connective right) rest := by
  obtain ⟨gap, first, afterFirst, _, rfl, blank, begins, derives, scans⟩ := operand
  obtain ⟨before, afterToken, rfl, blankBefore, shape, -, spacedBefore, spacedAfter, scans⟩ :=
    scans.first
  obtain ⟨behind, body, after, _, rfl, blankBehind, beginsLater, derivesLater, scans⟩ :=
    later scans
  have keyword : IsKeyword connective token.text := by
    rw [joins.kind] at shape
    generalize token.text = keywordText at shape
    cases shape with
    | connective word keyword => exact keyword
  have gapBefore : before ≠ [] := by
    rw [joins.spacedBefore] at spacedBefore
    simpa using spacedBefore
  have gapBehind : behind ≠ [] := by
    rw [joins.spacedAfter, beginsLater] at spacedAfter
    simpa using spacedAfter
  refine ⟨gap, _, after, _, ?_, blank, begins,
    .chain derives blankBefore gapBefore keyword blankBehind gapBehind derivesLater, scans⟩
  simp

/-- Tokens that spell a tree are an expression of the text, which writes the filter that the
tree describes. -/
theorem begins_of_spells {allowed : AllowList} {room position : Nat} {text : Text} {tree : Tree}
    {filter : Filter} {tokens rest : List Token} (spelled : Tree.Spells room tree tokens)
    (describes : tree.Describes filter) (listed : ∀ clause ∈ tree.clauses, clause.column ∈ allowed)
    (scans : Scans position text (tokens ++ rest)) :
    Begins allowed .expression room text filter rest := by
  have alone : ∀ {room text filter rest}, Begins allowed .operand room text filter rest →
      Begins allowed .expression room text filter rest :=
    fun ⟨gap, body, after, position, same, blank, begins, derives, scans⟩ =>
      ⟨gap, body, after, position, same, blank, begins, .alone derives, scans⟩
  induction spelled generalizing position text filter rest with
  | clause spelled =>
    cases describes with
    | clause read =>
      have isListed := listed _ (List.mem_singleton_self _)
      exact alone (begins_clause spelled isListed read scans)
  | group opens spelled closes ih =>
    cases describes with
    | group describes =>
      refine alone (begins_group opens closes (by simpa using scans) fun scans => ?_)
      exact ih describes listed scans
  | clauseThen spelled joins spelledRest ih =>
    cases describes with
    | clauseThen read describesRest =>
      rw [List.append_assoc] at scans
      simp only [Tree.clauses, List.forall_mem_cons] at listed
      exact begins_chain (begins_clause spelled listed.1 read scans) joins
        (ih describesRest listed.2)
  | groupThen opens spelled closes joins spelledRest ihInner ihRest =>
    cases describes with
    | groupThen describes describesRest =>
      simp only [Tree.clauses, List.mem_append] at listed
      refine begins_chain (begins_group opens closes (by simpa using scans) fun scans => ?_) joins
        (ihRest describesRest fun clause member => listed clause (.inr member))
      exact ihInner describes (fun clause member => listed clause (.inl member)) scans

/-- A filter is only read from a sentence of the grammar, which writes it. -/
theorem sentence_of_parse {allowed : AllowList} {raw : Text} {filter : Filter}
    (columns : allowed ≠ []) (nonempty : raw ≠ []) (read : parse allowed raw = .ok filter) :
    Sentence allowed raw filter := by
  obtain ⟨tokens, tree, cut, isTree, listed, describes⟩ :=
    (parse_eq_ok_iff_tree columns nonempty).1 read
  have scans := tokenize_eq_ok_iff.1 cut
  have spelled := Tree.ofTokens_eq_ok_iff.1 isTree
  rw [← List.append_nil tokens] at scans
  obtain ⟨before, body, after, position, same, blank, -, derives, rest⟩ :=
    begins_of_spells spelled describes listed scans
  exact ⟨before, body, after, same, blank, rest.blank, derives⟩

/-! ## From the grammar to tokens -/

/-- A phrase may end in front of a text: that is empty, or begins with a blank or a closing
parenthesis. -/
def Ends (after : Text) : Prop :=
  ∀ c ∈ after.head?, isAsciiBlank c = true ∨ c = .scalar ')'

/-- A phrase may end in front of a gap behind which it may end. -/
theorem Ends.behind {gap after : Text} (blank : Within isAsciiBlank gap) (ends : Ends after) :
    Ends (gap ++ after) := by
  cases gap with
  | nil => exact ends
  | cons c gap =>
    intro d first
    cases first
    exact .inl (within_cons.1 blank).1

/-- A phrase may end in front of a gap that is not empty. -/
theorem Ends.of_gap {gap : Text} (after : Text) (blank : Within isAsciiBlank gap)
    (spaced : gap ≠ []) : Ends (gap ++ after) := by
  cases gap with
  | nil => exact absurd rfl spaced
  | cons c gap =>
    intro d first
    cases first
    exact .inl (within_cons.1 blank).1

/-- No word goes on where a phrase ends. -/
theorem Ends.stopsAt {after : Text} (ends : Ends after) : StopsAt isWordChar after := by
  intro c first
  rcases ends c first with blank | rfl
  · rw [← Bool.not_eq_true]
    intro word
    simp [isAsciiBlank_of_isWordChar word] at blank
  · decide

/-- The keyword of a connective is a word in every letter case. -/
theorem IsKeyword.isWord {connective : Connective} {text : Text}
    (keyword : IsKeyword connective text) : IsWord text := by
  have letters : ∀ c ∈ text, isAsciiLetter c = true := by
    intro c member
    have upper : c.toAsciiUpper ∈ connective.keyword := keyword ▸ List.mem_map_of_mem member
    have ofKeyword : ∀ d ∈ connective.keyword, isAsciiLetter d = true := by
      cases connective <;> decide
    exact isAsciiLetter_of_toAsciiUpper (ofKeyword _ upper)
  have nonempty : text ≠ [] := by
    rintro rfl
    cases connective <;> simp [IsKeyword, Connective.keyword] at keyword
  refine ⟨nonempty, fun c member => by simp [isWordChar, letters c member], fun digits => ?_⟩
  obtain ⟨c, member⟩ := List.exists_mem_of_ne_nil text nonempty
  have letter := letters c member
  have digit := isAsciiDigit_iff.1 (digits c member)
  simp [isAsciiLetter] at letter
  omega

/-- What a token is and how it is written, wherever it stands. -/
abbrev Token.Label := Token.Kind × Text

/-- The label of a token. -/
def Token.label (token : Token) : Token.Label := (token.kind, token.text)

/-- The kind of the token that a literal is written as. -/
def Literal.kind : Literal → Token.Kind
  | string .. => .string
  | number _ => .number

/-- The labels of the three tokens that a condition is written as. -/
def Condition.labels (condition : Condition) : List Token.Label :=
  [(.identifier, condition.column),
    (.comparator condition.comparator, condition.comparator.symbol),
    (condition.literal.kind, condition.literal.raw)]

/-- A phrase of the grammar in a text, cut into tokens that have the given labels and spell a
tree. -/
structure Writes (allowed : AllowList) (depth : Nat) (body : Text) (labels : List Token.Label)
    (tree : Tree) (filter : Filter) : Prop where
  describes : tree.Describes filter
  listed : ∀ clause ∈ tree.clauses, clause.column ∈ allowed
  lays : ∀ {gap after : Text} (position : Nat), Within isAsciiBlank gap → Ends after →
    ∃ used next, Tree.Spells depth tree used ∧ used.map Token.label = labels ∧
      ∀ {rest}, Scans next after rest → Scans position (gap ++ body ++ after) (used ++ rest)

/-- A token can be laid behind a gap, in front of what does not continue it. -/
theorem exists_token {kind : Token.Kind} {gap text after : Text} (position : Nat)
    (blank : Within isAsciiBlank gap) (shape : Lexeme.Shape (some kind) text)
    (boundary : ∀ c ∈ after.head?, ¬ Lexeme.Continues ⟨some kind, text⟩ c) :
    ∃ token : Token, ∃ next, token.kind = kind ∧ token.text = text ∧
      token.spacedBefore = decide (gap ≠ []) ∧ token.spacedAfter = beginsBlank after ∧
      ∀ {rest}, Scans next after rest → Scans position (gap ++ text ++ after) (token :: rest) :=
  ⟨_, _, rfl, rfl, rfl, rfl, fun later => .token blank shape boundary later⟩

/-- A literal that may stand behind a comparator is read from its own text. -/
theorem Comparable.ofToken? {comparator : Comparator} {literal : Literal}
    (comparable : Comparable comparator literal) :
    Literal.ofToken? literal.raw = some literal := by
  cases comparable with
  | string value unordered => simp [Literal.raw, Literal.ofToken?]
  | number isNumber ordered => exact Literal.ofToken?_number isNumber

/-- A literal that may stand behind a comparator is a token in front of a place where a phrase
may end. -/
theorem Comparable.exists_token {comparator : Comparator} {literal : Literal} {gap after : Text}
    (comparable : Comparable comparator literal) (position : Nat)
    (blank : Within isAsciiBlank gap) (ends : Ends after) :
    ∃ token next, Tree.FitsBehind comparator token ∧ token.kind = literal.kind ∧
      token.text = literal.raw ∧ ∀ {rest}, Scans next after rest →
        Scans position (gap ++ literal.raw ++ after) (token :: rest) := by
  cases comparable with
  | string value unordered =>
    have boundary : ∀ c ∈ after.head?,
        ¬ Lexeme.Continues ⟨some .string, Quoted.encode value⟩ c := by
      rintro c first ⟨-, rfl⟩
      rcases ends _ first with blank | closes
      · exact absurd blank (by decide)
      · exact absurd closes (by decide)
    obtain ⟨token, next, kind, text, -, -, lay⟩ :=
      Filter.exists_token position blank (.quoted value) boundary
    have strings : comparator.comparesStrings = true := by
      rcases unordered with rfl | rfl <;> rfl
    exact ⟨token, next, .inl ⟨kind, strings⟩, kind, text, lay⟩
  | @number raw isNumber ordered =>
    have shape : Lexeme.Shape (some .number) raw := by
      cases isNumber with
      | whole run bounded => exact .whole run
      | fractional run bounded fractionRun fractionBounded => exact .fractional run fractionRun
    have boundary : ∀ c ∈ after.head?, ¬ Lexeme.Continues ⟨some .number, raw⟩ c := by
      rintro c first (word | rfl)
      · simp [ends.stopsAt c first] at word
      · rcases ends _ first with blank | closes
        · exact absurd blank (by decide)
        · exact absurd closes (by decide)
    obtain ⟨token, next, kind, text, -, -, lay⟩ :=
      Filter.exists_token position blank shape boundary
    have numbers : comparator.comparesNumbers = true := by
      cases comparator <;> simp_all [Comparator.comparesNumbers]
    refine ⟨token, next, .inr ⟨kind, numbers, ?_⟩, kind, text, lay⟩
    rw [text]
    exact Tree.isBoundedNumber_iff.2 isNumber

/-- A column is not continued by blanks or the symbol of a comparator. -/
theorem stopsAt_symbol {gap : Text} (comparator : Comparator) (rest : Text)
    (blank : Within isAsciiBlank gap) : StopsAt isWordChar (gap ++ comparator.symbol ++ rest) := by
  cases gap with
  | nil => cases comparator <;> exact stopsAt_cons.2 (by decide)
  | cons c gap =>
    have ends : Ends (c :: gap) := fun d first => by
      cases first
      exact .inl (within_cons.1 blank).1
    exact stopsAt_cons.2 (stopsAt_cons.1 ends.stopsAt)

/-- A comparator is not continued by blanks or a literal that may stand behind it. -/
theorem symbol_boundary {comparator : Comparator} {literal : Literal} {gap : Text} (rest : Text)
    (blank : Within isAsciiBlank gap) (comparable : Comparable comparator literal) :
    ∀ c ∈ (gap ++ literal.raw ++ rest).head?,
      ¬ Lexeme.Continues ⟨some (.comparator comparator), comparator.symbol⟩ c := by
  have plain : ∀ c ∈ (gap ++ literal.raw ++ rest).head?, c ≠ .scalar '=' := by
    intro c first
    cases gap with
    | cons d gap =>
      cases first
      exact ne_of_class (within_cons.1 blank).1 (by decide)
    | nil =>
      cases comparable with
      | string value unordered =>
        cases first
        decide
      | number isNumber ordered =>
        obtain ⟨d, more, same, digit⟩ := isNumber.first
        simp [Literal.raw, same] at first
        subst first
        exact ne_of_class digit (by decide)
  intro c first continues
  cases comparator <;> first | exact plain c first continues | exact continues

/-- A condition is three tokens. -/
theorem writes_condition {allowed : AllowList} {condition : Condition} {before after : Text}
    (depth : Nat) (admissible : condition.Admissible allowed)
    (gapBefore : Within isAsciiBlank before) (gapAfter : Within isAsciiBlank after) :
    Writes allowed depth
      (condition.column ++ before ++ condition.comparator.symbol ++ after ++ condition.literal.raw)
      condition.labels (.clause ⟨condition.column, condition.comparator, condition.literal.raw⟩)
      (single condition) where
  describes :=
    .clause (Condition.ofClause_eq_ok_iff.2 ⟨_, admissible.comparable.ofToken?, rfl⟩)
  listed := by simpa [Tree.clauses] using admissible.listed
  lays := by
    intro gap behind position blank ends
    have columnEnds : ∀ c ∈ (before ++ condition.comparator.symbol ++
          (after ++ condition.literal.raw ++ behind)).head?,
        ¬ Lexeme.Continues ⟨some .identifier, condition.column⟩ c := by
      intro c first
      simpa [Lexeme.Continues] using stopsAt_symbol _ _ gapBefore c first
    obtain ⟨column, afterColumn, isColumn, columnText, -, -, layColumn⟩ :=
      exists_token position blank (.identifier admissible.word admissible.unreserved) columnEnds
    obtain ⟨symbol, afterSymbol, isSymbol, symbolText, -, -, laySymbol⟩ :=
      exists_token afterColumn gapBefore (.comparator condition.comparator)
        (symbol_boundary behind gapAfter admissible.comparable)
    obtain ⟨literal, next, fits, literalKind, literalText, layLiteral⟩ :=
      admissible.comparable.exists_token afterSymbol gapAfter ends
    have spelled := Tree.SpellsClause.intro isColumn isSymbol fits
    rw [columnText, literalText] at spelled
    refine ⟨_, next, .clause spelled, ?_, fun scans => ?_⟩
    · simp [Condition.labels, Token.label, isColumn, columnText, isSymbol, symbolText, literalKind,
        literalText]
    have laid := layColumn (laySymbol (layLiteral scans))
    simpa only [List.append_assoc, List.cons_append, List.nil_append] using laid

/-- A group is what it encloses between two tokens. -/
theorem Writes.group {allowed : AllowList} {depth : Nat} {inner before after : Text}
    {labels : List Token.Label} {tree : Tree} {filter : Filter}
    (writes : Writes allowed depth inner labels tree filter)
    (gapBefore : Within isAsciiBlank before) (gapAfter : Within isAsciiBlank after) :
    Writes allowed (depth + 1)
      ([.scalar '('] ++ before ++ inner ++ after ++ [.scalar ')'])
      ([(.openGroup, [.scalar '('])] ++ labels ++ [(.closeGroup, [.scalar ')'])]) (.group tree)
      filter.enclose where
  describes := .group writes.describes
  listed := writes.listed
  lays := by
    intro gap behind position blank ends
    have innerEnds : Ends (after ++ [.scalar ')'] ++ behind) := by
      rw [List.append_assoc]
      refine Ends.behind gapAfter fun c first => ?_
      cases first
      exact .inr rfl
    have openingEnds : ∀ c ∈ (before ++ inner ++ (after ++ [CodePoint.scalar ')'] ++ behind)).head?,
        ¬ Lexeme.Continues ⟨some .openGroup, [.scalar '(']⟩ c := fun _ _ => id
    have closingEnds : ∀ c ∈ behind.head?,
        ¬ Lexeme.Continues ⟨some .closeGroup, [.scalar ')']⟩ c := fun _ _ => id
    obtain ⟨opening, afterOpening, opens, openingText, -, -, layOpening⟩ :=
      exists_token position blank .openGroup openingEnds
    obtain ⟨used, afterInner, spelled, rfl, layInner⟩ :=
      writes.lays afterOpening gapBefore innerEnds
    obtain ⟨closing, next, closes, closingText, -, -, layClosing⟩ :=
      exists_token afterInner gapAfter .closeGroup closingEnds
    refine ⟨_, next, .group opens spelled closes, ?_, fun scans => ?_⟩
    · simp [Token.label, opens, openingText, closes, closingText]
    have laid := layOpening (layInner (layClosing scans))
    simpa only [List.append_assoc, List.cons_append, List.nil_append] using laid

/-- A chain of operands is spelled by the tokens of the first, a connective and the tokens of
the others. -/
theorem Tree.Spells.joined {room : Nat} {operand : Tree.Operand} {connective : Connective}
    {rest : Tree} {token : Token} {tokens later : List Token}
    (spelled : Tree.Spells room operand.alone tokens) (joins : Tree.Joins connective token)
    (spelledRest : Tree.Spells room rest later) :
    Tree.Spells room (operand.joined connective rest) (tokens ++ token :: later) := by
  cases operand with
  | clause clause =>
    cases spelled with
    | clause spelled => exact .clauseThen spelled joins spelledRest
  | group inner =>
    cases spelled with
    | group opens spelled closes =>
      rw [List.cons_append, List.append_assoc]
      exact .groupThen opens spelled closes joins spelledRest

/-- A chain of operands describes what the first and the others do. -/
theorem Tree.Describes.joined {operand : Tree.Operand} {rest : Tree} {left right : Filter}
    (connective : Connective) (describes : operand.alone.Describes left)
    (describesRest : rest.Describes right) :
    (operand.joined connective rest).Describes (left.join connective right) := by
  cases operand with
  | clause clause =>
    cases describes with
    | clause read => exact .clauseThen read describesRest
  | group inner =>
    cases describes with
    | group describes => exact .groupThen describes describesRest

/-- The clauses of a chain are those of the first operand and of the others. -/
theorem Tree.clauses_joined (operand : Tree.Operand) (connective : Connective) (rest : Tree) :
    (operand.joined connective rest).clauses = operand.alone.clauses ++ rest.clauses := by
  cases operand <;> rfl

/-- An operand, a connective and more operands are laid one after the other. -/
theorem Writes.chain {allowed : AllowList} {depth : Nat}
    {first keyword later before after : Text} {labels laterLabels : List Token.Label}
    {operand : Tree.Operand} {rest : Tree} {left right : Filter} {connective : Connective}
    (writes : Writes allowed depth first labels operand.alone left)
    (gapBefore : Within isAsciiBlank before) (spacedBefore : before ≠ [])
    (isKeyword : IsKeyword connective keyword)
    (gapAfter : Within isAsciiBlank after) (spacedAfter : after ≠ [])
    (writesRest : Writes allowed depth later laterLabels rest right) :
    Writes allowed depth (first ++ before ++ keyword ++ after ++ later)
      (labels ++ [(.connective connective, keyword)] ++ laterLabels)
      (operand.joined connective rest) (left.join connective right) where
  describes := writes.describes.joined connective writesRest.describes
  listed := by
    intro clause member
    rw [Tree.clauses_joined, List.mem_append] at member
    exact member.elim (writes.listed clause) (writesRest.listed clause)
  lays := by
    intro gap behind position blank ends
    have keywordEnds : Ends (after ++ later ++ behind) := by
      rw [List.append_assoc]
      exact .of_gap _ gapAfter spacedAfter
    have operandEnds : Ends (before ++ keyword ++ (after ++ later ++ behind)) := by
      rw [List.append_assoc]
      exact .of_gap _ gapBefore spacedBefore
    obtain ⟨tokens, afterFirst, spelled, rfl, layFirst⟩ := writes.lays position blank operandEnds
    obtain ⟨token, afterToken, isConnective, tokenText, isSpacedBefore, isSpacedAfter, layToken⟩ :=
      exists_token afterFirst gapBefore (.connective isKeyword.isWord isKeyword)
        fun c first => by simpa [Lexeme.Continues] using keywordEnds.stopsAt c first
    obtain ⟨used, next, spelledRest, rfl, layRest⟩ := writesRest.lays afterToken gapAfter ends
    have joins : Tree.Joins connective token := by
      refine ⟨isConnective, by simp [isSpacedBefore, spacedBefore], ?_⟩
      cases after with
      | nil => exact absurd rfl spacedAfter
      | cons c after => simpa [isSpacedAfter, beginsBlank] using (within_cons.1 gapAfter).1
    refine ⟨_, next, spelled.joined joins spelledRest, ?_, fun scans => ?_⟩
    · simp [Token.label, isConnective, tokenText]
    have laid := layFirst (layToken (layRest scans))
    simpa only [List.append_assoc, List.cons_append, List.nil_append] using laid

/-- The trees of a phrase: an operand is a single clause or group. -/
def Phrase.Admits (phrase : Phrase) (tree : Tree) : Prop :=
  match phrase with
  | .operand => ∃ operand : Tree.Operand, operand.alone = tree
  | .expression => True

/-- Every phrase of the grammar is laid in tokens that spell a tree. -/
theorem exists_writes {allowed : AllowList} {phrase : Phrase} {depth : Nat} {body : Text}
    {filter : Filter} (derives : Derives allowed phrase depth body filter) :
    ∃ labels tree, phrase.Admits tree ∧ Writes allowed depth body labels tree filter := by
  induction derives with
  | condition admissible gapBefore gapAfter =>
    exact ⟨_, _, ⟨.clause _, rfl⟩, writes_condition _ admissible gapBefore gapAfter⟩
  | group gapBefore expression gapAfter ih =>
    obtain ⟨labels, tree, -, writes⟩ := ih
    exact ⟨_, _, ⟨.group tree, rfl⟩, writes.group gapBefore gapAfter⟩
  | alone operand ih =>
    obtain ⟨labels, tree, -, writes⟩ := ih
    exact ⟨labels, tree, trivial, writes⟩
  | chain operand gapBefore spacedBefore isKeyword gapAfter spacedAfter expression ih ihRest =>
    obtain ⟨_, _, ⟨first, rfl⟩, writes⟩ := ih
    obtain ⟨_, rest, -, writesRest⟩ := ihRest
    exact ⟨_, _, trivial,
      writes.chain gapBefore spacedBefore isKeyword gapAfter spacedAfter writesRest⟩

/-- Every sentence of the grammar is read, as the filter that it writes. -/
theorem parse_of_sentence {allowed : AllowList} {raw : Text} {filter : Filter}
    (columns : allowed ≠ []) (sentence : Sentence allowed raw filter) :
    parse allowed raw = .ok filter := by
  obtain ⟨before, body, after, rfl, blankBefore, blankAfter, derives⟩ := sentence
  obtain ⟨labels, tree, -, writes⟩ := exists_writes derives
  have ends : Ends after := fun c first => .inl (blankAfter c (List.mem_of_mem_head? first))
  obtain ⟨tokens, next, spelled, -, lay⟩ := writes.lays 0 blankBefore ends
  have scans := lay (.blanks blankAfter)
  rw [List.append_nil] at scans
  have cut := tokenize_eq_ok_iff.2 scans
  have isTree : Tree.ofTokens (before ++ body ++ after) tokens = .ok tree :=
    Tree.ofTokens_eq_ok_iff.2 spelled
  have nonempty : before ++ body ++ after ≠ [] := by simp [derives.ne_nil]
  exact (parse_eq_ok_iff_tree columns nonempty).2
    ⟨tokens, tree, cut, isTree, writes.listed, writes.describes⟩

/-- A text is read as a filter exactly if it is a sentence of the grammar that writes the
filter. -/
theorem parse_eq_ok_iff_sentence {allowed : AllowList} {raw : Text} {filter : Filter}
    (columns : allowed ≠ []) (nonempty : raw ≠ []) :
    parse allowed raw = .ok filter ↔ Sentence allowed raw filter :=
  ⟨sentence_of_parse columns nonempty, parse_of_sentence columns⟩

/-- A group, both literals and both connectives are in the grammar as they are read. -/
theorem sentence_grouped :
    Sentence ["id", "n"] "(id='a''b' or n >= 1.5) AND n<9"
      ⟨[⟨"id", .equal, .string "'a''b'" "a'b"⟩, ⟨"n", .greaterOrEqual, .number "1.5"⟩,
        ⟨"n", .less, .number "9"⟩], [.or, .and], [⟨0, 1⟩]⟩ :=
  (parse_eq_ok_iff_sentence (by decide) (by decide)).1 (by decide +kernel)

end ListQuery.Filter
