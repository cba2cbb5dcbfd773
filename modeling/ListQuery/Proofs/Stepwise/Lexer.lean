import ListQuery.Proofs.Filter.Lexeme

/-!
# Lexing step by step

The same lexer as a program would run it: the alternatives of a lexeme are tried in order, the kind
of a token is looked up under the name of its alternative, and what a token stands for is left for
later. A look-up that finds nothing is no rejection but a defect. `tokenize_eq` says that no text
leads to a defect, and that the tokens are those of the library.
-/

namespace ListQuery.Stepwise

open Text ListQuery.Filter

/-! ## Defects -/

/-- What would stop a reader for another reason than the text. -/
inductive Defect where
  /-- A token is taken behind the last one. -/
  | pastTheEnd
  /-- An alternative of the lexer is no kind of token. -/
  | noKind
  /-- A comparator token is the symbol of no comparator. -/
  | noComparator
  /-- A connective token is the keyword of no connective. -/
  | noConnective
  /-- A round of a loop takes no token. -/
  | standstill
  /-- More groups are open than may be. -/
  | tooDeep
  /-- A filter has too few or too many connectives for its conditions. -/
  | unconnected
  /-- A sort order has no part. -/
  | noColumn
  /-- Directions are missing, but not from any part. -/
  | nothingMissing
deriving Repr, DecidableEq

/-- How a reader ends without a value. -/
inductive Stop where
  | rejected (rejection : Rejection)
  | defect (defect : Defect)
deriving Repr, DecidableEq

/-- The outcome of a reader that has no defects. -/
def sound {α : Type} (outcome : Except Rejection α) : Except Stop α :=
  outcome.mapError .rejected

/-! ## Alternatives -/

/-- The alternatives of a lexeme. -/
inductive Alternative where
  | space
  | quoted
  | doubleQuoted
  | number
  | word
  | comparator
  | opening
  | closing
deriving Repr, DecidableEq

namespace Alternative

/-- The alternatives in the order in which they are tried. -/
def all : List Alternative :=
  [space, quoted, doubleQuoted, number, word, comparator, opening, closing]

/-- The symbols of comparators, a longer one before what it starts with. -/
def symbols : List Text :=
  [['>', '='], ['<', '='], ['!', '='], ['<'], ['>'], ['=']]

/-- A nonempty run of one character class, and the rest. -/
def run? (holds : CodePoint → Bool) (text : Text) : Option (Text × Text) :=
  if text.takeWhile holds = [] then none
  else some (text.takeWhile holds, text.dropWhile holds)

/-- What `close` takes behind an opening mark, with the mark, and the rest. -/
def behind? (mark : CodePoint) (close : Text → Option (Text × Text)) :
    Text → Option (Text × Text)
  | [] => none
  | c :: rest =>
    if c = mark then (close rest).map fun (body, rest) => (c :: body, rest) else none

/-- The first of the symbols that a text starts with, and the rest. -/
def symbol? (text : Text) : Option (Text × Text) :=
  symbols.findSome? fun symbol =>
    if symbol <+: text then some (symbol, text.drop symbol.length) else none

/-- What an alternative takes from the start of a text, and the rest. -/
def take? : Alternative → Text → Option (Text × Text)
  | space => run? isAsciiBlank
  | quoted => behind? Quoted.quote Lexeme.closeQuoted?
  | doubleQuoted => behind? '\x22' Lexeme.closeDoubleQuoted?
  | number => Lexeme.number?
  | word => run? isWordChar
  | comparator => symbol?
  | opening => behind? '(' fun rest => some ([], rest)
  | closing => behind? ')' fun rest => some ([], rest)

/-- The first alternative that takes something, what it takes, and the rest. -/
def first? (text : Text) : Option (Alternative × Text × Text) :=
  all.findSome? fun alternative =>
    (alternative.take? text).map fun (body, rest) => (alternative, body, rest)

/-- The alternative that a lexeme is found by. -/
def of (lexeme : Lexeme) : Alternative :=
  match lexeme.kind with
  | none => space
  | some .string => if lexeme.text.head? = some Quoted.quote then quoted else doubleQuoted
  | some .number => number
  | some .identifier | some (.connective _) => word
  | some (.comparator _) => comparator
  | some .openGroup => opening
  | some .closeGroup => closing

/-- The symbol that is found is that of the comparator at the start of a text. -/
theorem symbol?_eq (text : Text) :
    symbol? text = (Lexeme.comparator? text).map fun (found, rest) => (found.symbol, rest) := by
  have startsWith : ∀ {mark : CodePoint} {rest : Text},
      [mark] <+: rest ↔ ∃ later, rest = mark :: later := by
    intro mark rest
    exact ⟨fun ⟨later, same⟩ => ⟨later, same.symm⟩, fun ⟨later, same⟩ => ⟨later, same.symm⟩⟩
  unfold Lexeme.comparator?
  split
  · simp [symbol?, symbols, Comparator.symbol]
  · simp [symbol?, symbols, Comparator.symbol]
  · simp [symbol?, symbols, Comparator.symbol]
  · simp_all [symbol?, symbols, Comparator.symbol]
  · simp_all [symbol?, symbols, Comparator.symbol]
  · simp [symbol?, symbols, Comparator.symbol]
  · simp only [symbol?, symbols, List.findSome?_eq_none_iff, Option.map_none, List.forall_mem_cons,
      ite_eq_right_iff, reduceCtorEq, imp_false]
    refine ⟨?_, ?_, ?_, ?_, ?_, ?_, by simp⟩ <;> rintro ⟨rest, rfl⟩ <;> simp_all

/-- A run starts with a code point of its class. -/
theorem run?_cons {holds : CodePoint → Bool} {c : CodePoint} (rest : Text) :
    run? holds (c :: rest) =
      if holds c then some (c :: rest.takeWhile holds, rest.dropWhile holds) else none := by
  by_cases inside : holds c = true <;> simp [run?, inside]

/-- A number starts with a digit. -/
theorem number?_of_not_word {c : CodePoint} (rest : Text) (noWord : isWordChar c = false) :
    Lexeme.number? (c :: rest) = none := by
  have noDigit : isAsciiDigit c = false := by
    rw [← Bool.not_eq_true]
    intro digit
    simp [isWordChar_of_isAsciiDigit digit] at noWord
  simp [Lexeme.number?, noDigit]

/-- A word is found as a word, whether it is a keyword or not. -/
theorem of_wordKind (text : Text) : of ⟨some (Lexeme.wordKind text), text⟩ = word := by
  unfold Lexeme.wordKind
  split <;> rfl

/-- The first alternative takes the next lexeme. -/
theorem first?_eq (text : Text) :
    first? text = (Lexeme.next? text).map fun (lexeme, rest) => (of lexeme, lexeme.text, rest) := by
  cases text with
  | nil => rfl
  | cons c rest =>
    simp only [first?, all, List.findSome?_cons, take?, run?_cons, behind?, symbol?_eq,
      Lexeme.next?]
    by_cases blank : isAsciiBlank c = true
    · simp [blank, of]
    by_cases isQuote : c = Quoted.quote
    · subst isQuote
      have noWord : isWordChar Quoted.quote = false := by decide
      cases Lexeme.closeQuoted? rest with
      | none =>
        simp [blank, number?_of_not_word rest noWord, noWord]
        simp [Quoted.quote, Lexeme.comparator?]
      | some closed => simp [blank, of]
    by_cases isDoubleQuote : c = .scalar '\x22'
    · subst isDoubleQuote
      have noWord : isWordChar '\x22' = false := by decide
      cases Lexeme.closeDoubleQuoted? rest with
      | none =>
        simp [blank, isQuote, number?_of_not_word rest noWord, noWord]
        simp [Lexeme.comparator?]
      | some closed => simp [blank, isQuote, of]
    by_cases isWord : isWordChar c = true
    · cases Lexeme.number? (c :: rest) with
      | none => simp [blank, isQuote, isDoubleQuote, isWord, of_wordKind]
      | some number => simp [blank, isQuote, isDoubleQuote, isWord, of]
    have noNumber := number?_of_not_word rest (by simpa using isWord)
    by_cases isOpen : c = .scalar '('
    · subst isOpen
      simp [blank, isQuote, isDoubleQuote, isWord, noNumber, of]
      simp [Lexeme.comparator?]
    by_cases isClose : c = .scalar ')'
    · subst isClose
      simp [blank, isQuote, isDoubleQuote, isWord, noNumber, of]
      simp [Lexeme.comparator?]
    cases Lexeme.comparator? (c :: rest) with
    | none => simp [blank, isQuote, isDoubleQuote, isWord, noNumber, isOpen, isClose]
    | some found => simp [blank, isQuote, isDoubleQuote, isWord, noNumber, isOpen, isClose, of]

/-- What the first alternative leaves is shorter than the text. -/
theorem first?_length {text body rest : Text} {alternative : Alternative}
    (taken : first? text = some (alternative, body, rest)) : rest.length < text.length := by
  rw [first?_eq] at taken
  obtain ⟨⟨lexeme, left⟩, isNext, same⟩ := Option.map_eq_some_iff.1 taken
  cases same
  exact Lexeme.next?_length isNext

end Alternative

/-- The parts that a text is cut into, each with its alternative. -/
def parts (text : Text) : Except Stop (List (Alternative × Text)) :=
  if text = [] then .ok []
  else
    match _ : Alternative.first? text with
    | none => .error (.rejected (.expecting .malformed text Lexeme.hint))
    | some (alternative, body, rest) => (parts rest).map ((alternative, body) :: ·)
termination_by text.length
decreasing_by exact Alternative.first?_length ‹_›

/-- The parts of a text are its lexemes. -/
theorem parts_eq (text : Text) :
    parts text = sound ((Lexeme.ofText text).map
      (List.map fun lexeme => (Alternative.of lexeme, lexeme.text))) := by
  induction text using Lexeme.ofText.induct with
  | case1 => simp [parts, sound, Except.map, Except.mapError]
  | case2 text nonempty stuck =>
    rw [parts, Lexeme.ofText]
    simp only [if_neg nonempty]
    split <;> split <;> simp_all [Alternative.first?_eq, sound, Except.map, Except.mapError]
  | case3 text nonempty lexeme rest taken ih =>
    have found : Alternative.first? text =
        some (Alternative.of lexeme, lexeme.text, rest) := by
      rw [Alternative.first?_eq, taken]
      rfl
    rw [parts, Lexeme.ofText]
    simp only [if_neg nonempty]
    split
    · simp_all
    · rename_i same
      cases found.symm.trans same
      split
      · simp_all
      · rename_i same
        cases taken.symm.trans same
        rw [ih]
        cases Lexeme.ofText rest <;> rfl

/-! ## Tokens -/

/-- The kind of a token, before it is known what the token stands for. -/
inductive Kind where
  | identifier
  | connective
  | comparator
  | string
  | number
  | openGroup
  | closeGroup
deriving Repr, DecidableEq

/-- The kinds of tokens by their alternative. Words are of two kinds. -/
def kinds : List (Alternative × Kind) :=
  [(.quoted, .string), (.doubleQuoted, .string), (.number, .number), (.comparator, .comparator),
    (.opening, .openGroup), (.closing, .closeGroup)]

/-- The kind of what an alternative has taken. -/
def kindOf (alternative : Alternative) (body : Text) : Except Stop Kind :=
  if alternative = .word then
    .ok (if (Connective.ofKeyword? body).isSome then .connective else .identifier)
  else
    match kinds.lookup alternative with
    | some kind => .ok kind
    | none => .error (.defect .noKind)

/-- A token that does not tell what it stands for. -/
structure Token where
  kind : Kind
  text : Text
  position : Nat
  spacedBefore : Bool
  spacedAfter : Bool
deriving Repr, DecidableEq

/-- Whether blanks come first. -/
def startsBlank : List (Alternative × Text) → Bool
  | [] => false
  | (alternative, _) :: _ => alternative = .space

/-- The tokens among some parts, the first of which stands at `position` and is preceded by blanks
if `spaced`. -/
def tokens (position : Nat) (spaced : Bool) : List (Alternative × Text) → Except Stop (List Token)
  | [] => .ok []
  | (alternative, body) :: rest =>
    if alternative = .space then tokens (position + body.length) true rest
    else do
      let kind ← kindOf alternative body
      let later ← tokens (position + body.length) false rest
      .ok (⟨kind, body, position, spaced, startsBlank rest⟩ :: later)

/-- The tokens of a text. -/
def tokenize (raw : Text) : Except Stop (List Token) := do
  tokens 0 false (← parts raw)

/-- The kind of a token without what the token stands for. -/
def Kind.of : Filter.Token.Kind → Kind
  | .identifier => identifier
  | .connective _ => connective
  | .comparator _ => comparator
  | .string => string
  | .number => number
  | .openGroup => openGroup
  | .closeGroup => closeGroup

/-- A token without what it stands for. -/
def Token.of (token : Filter.Token) : Token :=
  ⟨.of token.kind, token.text, token.position, token.spacedBefore, token.spacedAfter⟩

/-- Every lexeme that is a token has a kind. -/
theorem kindOf_eq {kind : Filter.Token.Kind} {text : Text}
    (shape : Lexeme.Shape (some kind) text) :
    kindOf (.of ⟨some kind, text⟩) text = .ok (.of kind) := by
  cases shape with
  | quoted value => rfl
  | @doubleQuoted body plain =>
    have noQuote : CodePoint.scalar '\x22' ≠ Quoted.quote := by decide
    have found : Alternative.of ⟨some .string, '\x22' :: (body ++ [.scalar '\x22'])⟩ =
        .doubleQuoted := by
      simp [Alternative.of, noQuote]
    rw [found]
    rfl
  | whole run => rfl
  | fractional run fractionRun => rfl
  | identifier word unreserved =>
    simp [kindOf, Alternative.of, Kind.of, (Lexeme.ofKeyword?_eq_none_iff word.word).2 unreserved]
  | connective word keyword =>
    simp [kindOf, Alternative.of, Kind.of, (Lexeme.ofKeyword?_eq_some_iff word.word).2 keyword]
  | comparator comparator => rfl
  | openGroup => rfl
  | closeGroup => rfl

/-- Only runs of blanks are skipped. -/
theorem of_eq_space_iff {lexeme : Lexeme} :
    Alternative.of lexeme = .space ↔ lexeme.kind = none := by
  obtain ⟨kind, text⟩ := lexeme
  rcases kind with _ | kind
  · simp [Alternative.of]
  · cases kind <;> simp [Alternative.of]
    split <;> simp

/-- The lexemes of a text have the shapes of their kinds. -/
theorem shape_of_ofText {text : Text} {lexemes : List Lexeme}
    (cut : Lexeme.ofText text = .ok lexemes) :
    ∀ lexeme ∈ lexemes, Lexeme.Shape lexeme.kind lexeme.text := by
  induction lexemes generalizing text with
  | nil => simp
  | cons lexeme later ih =>
    obtain ⟨-, impossible⟩ | ⟨_, rest, _, taken, cutRest, same⟩ := Lexeme.ofText_eq_ok_iff.1 cut
    · simp at impossible
    · cases same
      exact List.forall_mem_cons.2 ⟨(Lexeme.next?_sound taken).shape, ih cutRest⟩

/-- Parts start with blanks where lexemes do. -/
theorem startsBlank_eq (lexemes : List Lexeme) :
    startsBlank (lexemes.map fun lexeme => (Alternative.of lexeme, lexeme.text)) =
      Lexeme.startsBlank lexemes := by
  cases lexemes with
  | nil => rfl
  | cons next later =>
    rw [Bool.eq_iff_iff]
    simp [startsBlank, Lexeme.startsBlank, of_eq_space_iff]

/-- The tokens among the parts of a text are those among its lexemes. -/
theorem tokens_eq {lexemes : List Lexeme} (position : Nat) (spaced : Bool)
    (shapes : ∀ lexeme ∈ lexemes, Lexeme.Shape lexeme.kind lexeme.text) :
    tokens position spaced (lexemes.map fun lexeme => (Alternative.of lexeme, lexeme.text)) =
      .ok ((Lexeme.tokens position spaced lexemes).map Token.of) := by
  induction lexemes generalizing position spaced with
  | nil => rfl
  | cons lexeme later ih =>
    obtain ⟨kind, text⟩ := lexeme
    obtain ⟨shape, laterShapes⟩ := List.forall_mem_cons.1 shapes
    rw [List.map_cons, tokens, Lexeme.tokens]
    cases kind with
    | none => simp [of_eq_space_iff, ih _ _ laterShapes]
    | some kind =>
      have isToken : ¬ Alternative.of ⟨some kind, text⟩ = .space := by simp [of_eq_space_iff]
      rw [if_neg isToken, kindOf_eq shape, ih _ _ laterShapes, startsBlank_eq]
      rfl

/-- Cutting a text into tokens leads to no defect, and finds the tokens of the library. -/
theorem tokenize_eq (raw : Text) :
    tokenize raw = sound ((Filter.tokenize raw).map (List.map Token.of)) := by
  rw [tokenize, parts_eq, Filter.tokenize]
  cases cut : Lexeme.ofText raw with
  | error rejection => rfl
  | ok lexemes => exact tokens_eq 0 false (shape_of_ofText cut)

end ListQuery.Stepwise
