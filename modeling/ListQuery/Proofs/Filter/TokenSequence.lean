import ListQuery.Proofs.Filter.Rendering
import ListQuery.Proofs.Gate

/-!
# The tokens of a filter and of its text

Spans are kept apart from conditions, but nothing moves: the text of a filter has the tokens that
the filter was read from, in the same order and up to the letter case of connectives. So the
tokens of a text determine the filter and the filter determines the tokens; no two texts that are
grouped in different ways are read as one filter.
-/

namespace ListQuery.Filter

open Text

/-! ## Labels in capital letters -/

namespace Token.Label

/-- A label with the keyword of a connective in capital letters. -/
def capitalized : Token.Label → Token.Label
  | (.connective connective, text) => (.connective connective, upper text)
  | label => label

/-- What a filter writes for a label: a connective stands between blanks. -/
def written : Token.Label → Text
  | (.connective _, text) => [.scalar ' '] ++ text ++ [.scalar ' ']
  | (_, text) => text

end Token.Label

/-- The label of a token, with the keyword of a connective in capital letters. -/
def Token.canonical (token : Token) : Token.Label := token.label.capitalized

/-- The keyword of a connective in capital letters is the one that a filter writes. -/
theorem capitalized_connective {connective : Connective} {keyword : Text}
    (isKeyword : IsKeyword connective keyword) :
    Token.Label.capitalized (.connective connective, keyword) =
      (.connective connective, connective.keyword) := by
  rw [Token.Label.capitalized, upper_of_word isKeyword.isWord.word, isKeyword]

/-- The labels of a condition hold no keyword. -/
theorem Condition.capitalized_labels (condition : Condition) :
    condition.labels.map Token.Label.capitalized = condition.labels := by
  obtain ⟨column, comparator, literal⟩ := condition
  cases literal <;> rfl

/-- A condition is written as its labels are, one after the other. -/
theorem Condition.written_labels (condition : Condition) :
    condition.labels.flatMap Token.Label.written = condition.text := by
  obtain ⟨column, comparator, literal⟩ := condition
  cases literal <;> simp [labels, Literal.kind, Token.Label.written, text]

/-! ## A phrase and its text -/

/-- A phrase with the given labels, and the text of its filter, which is made of the same labels in
capital letters and is spelled by the same tree. -/
structure Respelled (allowed : AllowList) (depth : Nat) (body : Text) (labels : List Token.Label)
    (tree : Tree) (filter : Filter) : Prop where
  source : Writes allowed depth body labels tree filter
  canonical : Writes allowed depth
    ((labels.map Token.Label.capitalized).flatMap Token.Label.written)
    (labels.map Token.Label.capitalized) tree filter
  isText : filter.text? =
    some ((labels.map Token.Label.capitalized).flatMap Token.Label.written)

/-- A condition keeps its labels in its text. -/
theorem respelled_condition {allowed : AllowList} {condition : Condition} {before after : Text}
    (depth : Nat) (admissible : condition.Admissible allowed)
    (gapBefore : Within isAsciiBlank before) (gapAfter : Within isAsciiBlank after) :
    Respelled allowed depth
      (condition.column ++ before ++ condition.comparator.symbol ++ after ++ condition.literal.raw)
      condition.labels (.clause ⟨condition.column, condition.comparator, condition.literal.raw⟩)
      (single condition) where
  source := writes_condition depth admissible gapBefore gapAfter
  canonical := by
    rw [condition.capitalized_labels, condition.written_labels]
    simpa [Condition.text] using writes_condition depth admissible within_nil within_nil
  isText := by
    rw [condition.capitalized_labels, condition.written_labels]
    exact text?_single condition

/-- A group keeps its parentheses at their places. -/
theorem Respelled.group {allowed : AllowList} {depth : Nat} {inner before after : Text}
    {labels : List Token.Label} {tree : Tree} {filter : Filter}
    (respelled : Respelled allowed depth inner labels tree filter)
    (balanced : Balanced depth filter)
    (gapBefore : Within isAsciiBlank before) (gapAfter : Within isAsciiBlank after) :
    Respelled allowed (depth + 1) ([.scalar '('] ++ before ++ inner ++ after ++ [.scalar ')'])
      ([(.openGroup, [.scalar '('])] ++ labels ++ [(.closeGroup, [.scalar ')'])]) (.group tree)
      filter.enclose where
  source := respelled.source.group gapBefore gapAfter
  canonical := by
    simpa [Token.Label.capitalized, Token.Label.written] using
      respelled.canonical.group within_nil within_nil
  isText := by
    rw [text?_enclose balanced respelled.isText]
    simp [Token.Label.capitalized, Token.Label.written]

/-- A chain keeps the labels of its first operand, its connective and its other operands. -/
theorem Respelled.chain {allowed : AllowList} {depth : Nat}
    {first keyword later before after : Text} {labels laterLabels : List Token.Label}
    {operand : Tree.Operand} {rest : Tree} {left right : Filter} {connective : Connective}
    (respelled : Respelled allowed depth first labels operand.alone left)
    (balanced : Balanced depth left)
    (gapBefore : Within isAsciiBlank before) (spacedBefore : before ≠ [])
    (isKeyword : IsKeyword connective keyword)
    (gapAfter : Within isAsciiBlank after) (spacedAfter : after ≠ [])
    (respelledRest : Respelled allowed depth later laterLabels rest right)
    (balancedRight : Balanced depth right) :
    Respelled allowed depth (first ++ before ++ keyword ++ after ++ later)
      (labels ++ [(.connective connective, keyword)] ++ laterLabels)
      (operand.joined connective rest) (left.join connective right) where
  source :=
    respelled.source.chain gapBefore spacedBefore isKeyword gapAfter spacedAfter
      respelledRest.source
  canonical := by
    have blank : Within isAsciiBlank [.scalar ' '] := within_cons.2 ⟨by decide, within_nil⟩
    have chained := respelled.canonical.chain blank (by simp) connective.isKeyword_keyword blank
      (by simp) respelledRest.canonical
    simpa [capitalized_connective isKeyword, Token.Label.written] using chained
  isText := by
    rw [text?_join connective balanced balancedRight respelled.isText respelledRest.isText]
    simp [capitalized_connective isKeyword, Token.Label.written]

/-- Every phrase keeps its labels in the text of its filter. -/
theorem Derives.exists_respelled {allowed : AllowList} {phrase : Phrase} {depth : Nat}
    {body : Text} {filter : Filter} (derives : Derives allowed phrase depth body filter) :
    ∃ labels tree, phrase.Admits tree ∧ Respelled allowed depth body labels tree filter := by
  induction derives with
  | condition admissible gapBefore gapAfter =>
    exact ⟨_, _, ⟨.clause _, rfl⟩, respelled_condition _ admissible gapBefore gapAfter⟩
  | group gapBefore expression gapAfter ih =>
    obtain ⟨labels, tree, -, respelled⟩ := ih
    exact ⟨_, _, ⟨.group tree, rfl⟩, respelled.group expression.balanced gapBefore gapAfter⟩
  | alone operand ih =>
    obtain ⟨labels, tree, -, respelled⟩ := ih
    exact ⟨labels, tree, trivial, respelled⟩
  | chain operand gapBefore spacedBefore isKeyword gapAfter spacedAfter expression ih ihRest =>
    obtain ⟨_, _, ⟨first, rfl⟩, respelled⟩ := ih
    obtain ⟨_, rest, -, respelledRest⟩ := ihRest
    exact ⟨_, _, trivial, respelled.chain operand.balanced gapBefore spacedBefore isKeyword
      gapAfter spacedAfter respelledRest expression.balanced⟩

/-! ## Tokens of texts that are read -/

/-- A phrase between blanks is cut into tokens with its labels. -/
theorem Writes.tokenize {allowed : AllowList} {depth : Nat} {before body after : Text}
    {labels : List Token.Label} {tree : Tree} {filter : Filter}
    (writes : Writes allowed depth body labels tree filter)
    (blankBefore : Within isAsciiBlank before) (blankAfter : Within isAsciiBlank after) :
    ∃ tokens, tokenize (before ++ body ++ after) = .ok tokens ∧
      tokens.map Token.label = labels := by
  have ends : Ends after := fun c first => .inl (blankAfter c (List.mem_of_mem_head? first))
  obtain ⟨tokens, next, -, labelled, lay⟩ := writes.lays 0 blankBefore ends
  have scans := lay (.blanks blankAfter)
  rw [List.append_nil] at scans
  exact ⟨tokens, tokenize_eq_ok_iff.2 scans, labelled⟩

/-- The tokens of a text that is read make up the text of the filter, which has them again. -/
theorem tokenize_of_parse {allowed : AllowList} {raw : Text} {filter : Filter}
    (read : parse allowed raw = .ok filter) :
    ∃ text tokens written, filter.text? = some text ∧ tokenize raw = .ok tokens ∧
      tokenize text = .ok written ∧ written.map Token.label = tokens.map Token.canonical ∧
      text = (tokens.map Token.canonical).flatMap Token.Label.written := by
  have columns : allowed ≠ [] := by
    obtain ⟨_, passed, -⟩ := bind_eq_ok_iff.1 read
    exact AllowList.requireNonempty_eq_ok_iff.1 passed
  by_cases blank : raw = []
  · subst blank
    cases (parse_nil columns).symm.trans read
    have none : tokenize [] = .ok [] := tokenize_eq_ok_iff.2 (.blanks within_nil)
    exact ⟨[], [], [], rfl, none, none, rfl, rfl⟩
  · obtain ⟨before, body, after, rfl, blankBefore, blankAfter, derives⟩ :=
      sentence_of_parse columns blank read
    obtain ⟨labels, tree, -, respelled⟩ := derives.exists_respelled
    obtain ⟨tokens, cut, labelled⟩ := respelled.source.tokenize blankBefore blankAfter
    obtain ⟨written, cutText, labelledText⟩ := respelled.canonical.tokenize within_nil within_nil
    have canonical : tokens.map Token.canonical = labels.map Token.Label.capitalized := by
      rw [← labelled, List.map_map]
      rfl
    refine ⟨_, tokens, written, respelled.isText, cut, ?_, ?_, ?_⟩
    · simpa using cutText
    · rw [labelledText, canonical]
    · rw [canonical]

/-- A text is read as the same filter by all allow-lists that let it pass. -/
theorem parse_unique {allowed other : AllowList} {raw : Text} {filter found : Filter}
    (read : parse allowed raw = .ok filter) (readOther : parse other raw = .ok found) :
    filter = found := by
  obtain ⟨named, outcome, stages, -⟩ := isGated raw
  rw [stages] at read readOther
  obtain ⟨-, isFilter, -⟩ := AllowList.gated_eq_ok_iff.1 read
  obtain ⟨-, isFound, -⟩ := AllowList.gated_eq_ok_iff.1 readOther
  cases isFilter.symm.trans isFound
  rfl

/-- The text of a filter that is read has the tokens that the filter was read from, with
connectives in capital letters; and two texts are read as one filter exactly if they have the same
tokens up to the letter case of connectives. -/
theorem parse_keeps_tokens :
    (∀ allowed raw filter, parse allowed raw = .ok filter →
      ∃ text tokens written, filter.text? = some text ∧ tokenize raw = .ok tokens ∧
        tokenize text = .ok written ∧ written.map Token.label = tokens.map Token.canonical) ∧
    ∀ allowed other raw later filter found tokens laterTokens,
      parse allowed raw = .ok filter → parse other later = .ok found →
      tokenize raw = .ok tokens → tokenize later = .ok laterTokens →
      (filter = found ↔ tokens.map Token.canonical = laterTokens.map Token.canonical) := by
  constructor
  · intro allowed raw filter read
    obtain ⟨text, tokens, written, isText, cut, cutText, same, -⟩ := tokenize_of_parse read
    exact ⟨text, tokens, written, isText, cut, cutText, same⟩
  · intro allowed other raw later filter found tokens laterTokens read readLater cut cutLater
    obtain ⟨text, _, written, isText, cutAgain, cutText, same, madeOf⟩ := tokenize_of_parse read
    obtain ⟨laterText, _, laterWritten, isLaterText, cutLaterAgain, cutLaterText, laterSame,
      laterMadeOf⟩ := tokenize_of_parse readLater
    cases cut.symm.trans cutAgain
    cases cutLater.symm.trans cutLaterAgain
    constructor
    · rintro rfl
      cases isText.symm.trans isLaterText
      cases cutText.symm.trans cutLaterText
      rw [← same, laterSame]
    · intro sameTokens
      -- Both filters have the text that the tokens make up, and are read from it.
      have sameText : laterText = text := by rw [madeOf, laterMadeOf, sameTokens]
      obtain ⟨_, isTextAgain, readText, -⟩ := parse_text read
      obtain ⟨_, isLaterTextAgain, readLaterText, -⟩ := parse_text readLater
      cases isText.symm.trans isTextAgain
      cases isLaterText.symm.trans isLaterTextAgain
      rw [sameText] at readLaterText
      exact parse_unique readText readLaterText

/-- Blanks, letter case and the allow-list make no difference to nested groups. -/
theorem parse_keeps_tokens_nested :
    ∃ tokens laterTokens, tokenize "( ((a = 1)) and b!='x''y')" = .ok tokens ∧
      tokenize "(((a=1)) AND b!='x''y' )" = .ok laterTokens ∧
      tokens.map Token.canonical = laterTokens.map Token.canonical := by
  obtain ⟨kept, determined⟩ := parse_keeps_tokens
  have read : parse ["a", "b"] "( ((a = 1)) and b!='x''y')" =
      .ok ⟨[⟨"a", .equal, .number "1"⟩, ⟨"b", .notEqual, .string "'x''y'" "x'y"⟩], [.and],
        [⟨0, 0⟩, ⟨0, 0⟩, ⟨0, 1⟩]⟩ := by decide +kernel
  have readLater : parse ["b", "a", "c"] "(((a=1)) AND b!='x''y' )" =
      .ok ⟨[⟨"a", .equal, .number "1"⟩, ⟨"b", .notEqual, .string "'x''y'" "x'y"⟩], [.and],
        [⟨0, 0⟩, ⟨0, 0⟩, ⟨0, 1⟩]⟩ := by decide +kernel
  obtain ⟨-, tokens, -, -, cut, -⟩ := kept _ _ _ read
  obtain ⟨-, laterTokens, -, -, cutLater, -⟩ := kept _ _ _ readLater
  exact ⟨tokens, laterTokens, cut, cutLater, (determined _ _ _ _ _ _ _ _ read readLater cut
    cutLater).1 rfl⟩

end ListQuery.Filter
