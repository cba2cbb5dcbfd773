import ListQuery.AllowList
import ListQuery.Filter.Basic
import ListQuery.Proofs.Text.Run

/-!
# The grammar of filters

What a filter text looks like, character by character:

    filter     := blank* expression blank*
    expression := operand (blank+ connective blank+ operand)*
    operand    := "(" blank* expression blank* ")" | column blank* comparator blank* literal

`Derives` relates a text of this grammar to the filter that it writes, which `single`, `enclose`
and `join` put together along the derivation. Neither tokens nor the readers of them occur here,
so the grammar can be held against what the library reads.
-/

namespace ListQuery.Filter

open Text

/-! ## Putting filters together -/

/-- The filter of one condition. -/
def single (condition : Condition) : Filter := ⟨[condition], [], []⟩

/-- A filter with a group around all of it, which closes after all groups inside. -/
def enclose (filter : Filter) : Filter :=
  { filter with groups := filter.groups ++ [⟨0, filter.conditions.length - 1⟩] }

/-- A span in a filter that some more conditions are put in front of. -/
def Span.shift (offset : Nat) (span : Span) : Span :=
  ⟨span.first + offset, span.last + offset⟩

/-- Two filters with a connective between them. -/
def join (left : Filter) (connective : Connective) (right : Filter) : Filter where
  conditions := left.conditions ++ right.conditions
  connectives := left.connectives ++ connective :: right.connectives
  groups := left.groups ++ right.groups.map (Span.shift left.conditions.length)

/-! ## Words and numbers -/

/-- A nonempty run of word characters that are not all digits. -/
structure IsWord (text : Text) : Prop where
  nonempty : text ≠ []
  word : Within isWordChar text
  notDigits : ¬ Within isAsciiDigit text

/-- A text is the keyword of a connective in some letter case. -/
def IsKeyword (connective : Connective) (text : Text) : Prop :=
  text.map CodePoint.toAsciiUpper = connective.keyword

/-- The keyword of a connective is one in capital letters. -/
theorem Connective.isKeyword_keyword (connective : Connective) :
    IsKeyword connective connective.keyword := by
  cases connective <;> rfl

/-- One to fifteen digits, and optionally a point and one to fifteen more. -/
inductive IsNumber : Text → Prop where
  | whole {digits : Text} (run : DigitRun digits) (bounded : digits.length ≤ 15) :
      IsNumber digits
  | fractional {whole fraction : Text} (run : DigitRun whole) (bounded : whole.length ≤ 15)
      (fractionRun : DigitRun fraction) (fractionBounded : fraction.length ≤ 15) :
      IsNumber (whole ++ CodePoint.scalar '.' :: fraction)

/-! ## Conditions -/

/-- A comparator and a literal that may stand behind it. Strings are written in single quotes
with every quote inside doubled, and have no order. -/
inductive Comparable : Comparator → Literal → Prop where
  | string {comparator : Comparator} (value : Text)
      (unordered : comparator = .equal ∨ comparator = .notEqual) :
      Comparable comparator (.string (Quoted.encode value) value)
  | number {comparator : Comparator} {raw : Text} (isNumber : IsNumber raw)
      (ordered : comparator ≠ .notEqual) : Comparable comparator (.number raw)

/-- A condition that a filter may hold: its column is a word of the allow-list that is no
keyword, and its literal may stand behind its comparator. -/
structure Condition.Admissible (allowed : AllowList) (condition : Condition) : Prop where
  listed : condition.column ∈ allowed
  word : IsWord condition.column
  unreserved : ∀ connective, ¬ IsKeyword connective condition.column
  comparable : Comparable condition.comparator condition.literal

/-! ## Expressions -/

/-- The phrases of the grammar below the whole filter. -/
inductive Phrase where
  | operand
  | expression

/-- A text is a phrase of the grammar with at most `depth` nested groups, and writes the given
filter. -/
inductive Derives (allowed : AllowList) : Phrase → (depth : Nat) → Text → Filter → Prop where
  | condition {depth : Nat} {condition : Condition} {before after : Text}
      (admissible : condition.Admissible allowed)
      (gapBefore : Within isAsciiBlank before) (gapAfter : Within isAsciiBlank after) :
      Derives allowed .operand depth
        (condition.column ++ before ++ condition.comparator.symbol ++ after ++
          condition.literal.raw)
        (single condition)
  | group {depth : Nat} {inner before after : Text} {filter : Filter}
      (gapBefore : Within isAsciiBlank before)
      (expression : Derives allowed .expression depth inner filter)
      (gapAfter : Within isAsciiBlank after) :
      Derives allowed .operand (depth + 1)
        ([.scalar '('] ++ before ++ inner ++ after ++ [.scalar ')'])
        filter.enclose
  | alone {depth : Nat} {text : Text} {filter : Filter}
      (operand : Derives allowed .operand depth text filter) :
      Derives allowed .expression depth text filter
  | chain {depth : Nat} {first keyword later before after : Text} {left right : Filter}
      {connective : Connective}
      (operand : Derives allowed .operand depth first left)
      (gapBefore : Within isAsciiBlank before) (spacedBefore : before ≠ [])
      (isKeyword : IsKeyword connective keyword)
      (gapAfter : Within isAsciiBlank after) (spacedAfter : after ≠ [])
      (expression : Derives allowed .expression depth later right) :
      Derives allowed .expression depth (first ++ before ++ keyword ++ after ++ later)
        (left.join connective right)

/-- No phrase of the grammar is empty. -/
theorem Derives.ne_nil {allowed : AllowList} {phrase : Phrase} {depth : Nat} {body : Text}
    {filter : Filter} (derives : Derives allowed phrase depth body filter) : body ≠ [] := by
  induction derives with
  | condition admissible gapBefore gapAfter => simp [admissible.word.nonempty]
  | group gapBefore expression gapAfter ih => simp
  | alone operand ih => exact ih
  | chain operand gapBefore spacedBefore isKeyword gapAfter spacedAfter expression ih ihRest =>
    simp [ih]

/-- A text is an expression with at most 32 nested groups, blanks around it left aside. -/
def Sentence (allowed : AllowList) (raw : Text) (filter : Filter) : Prop :=
  ∃ before body after, raw = before ++ body ++ after ∧ Within isAsciiBlank before ∧
    Within isAsciiBlank after ∧ Derives allowed .expression 32 body filter

end ListQuery.Filter
