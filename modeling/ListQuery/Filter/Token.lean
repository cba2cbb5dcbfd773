import ListQuery.Text.Case

/-!
# Filter tokens

The tokens of a filter expression. A token keeps its source text and position, and records
whether a blank stands directly before and after it, because a connective needs both.
-/

namespace ListQuery.Filter

/-- How a condition compares its column with its literal. -/
inductive Comparator where
  | equal
  | notEqual
  | greater
  | greaterOrEqual
  | less
  | lessOrEqual
deriving Repr, DecidableEq

namespace Comparator

/-- All comparators. -/
def all : List Comparator :=
  [equal, notEqual, greater, greaterOrEqual, less, lessOrEqual]

/-- The symbol of a comparator. -/
def symbol : Comparator → Text
  | equal => ['=']
  | notEqual => ['!', '=']
  | greater => ['>']
  | greaterOrEqual => ['>', '=']
  | less => ['<']
  | lessOrEqual => ['<', '=']

/-- The comparator with a given symbol. -/
def ofSymbol? (text : Text) : Option Comparator :=
  all.find? (·.symbol = text)

/-- Whether a comparator may stand before a string: strings have no order. -/
def comparesStrings : Comparator → Bool
  | equal | notEqual => true
  | _ => false

/-- Whether a comparator may stand before a number. -/
def comparesNumbers : Comparator → Bool
  | notEqual => false
  | _ => true

/-- The symbols that may stand before a string, as a hint to the client. -/
def stringHint : Text := "!=, ="

/-- The symbols that may stand before a number, as a hint to the client. -/
def numberHint : Text := "<, <=, =, >, >="

end Comparator

/-- How two conditions are joined. -/
inductive Connective where
  | and
  | or
deriving Repr, DecidableEq

namespace Connective

/-- The keyword of a connective. -/
def keyword : Connective → Text
  | and => ['A', 'N', 'D']
  | or => ['O', 'R']

/-- Both connectives. -/
def all : List Connective :=
  [and, or]

/-- The connective whose keyword a text is to the letter. -/
def named? (text : Text) : Option Connective :=
  all.find? (·.keyword = text)

/-- The connective whose keyword a text is, letter case ignored. -/
def ofKeyword? (text : Text) : Option Connective :=
  let word := Text.upper text
  if word = keyword and then some and
  else if word = keyword or then some or
  else none

end Connective

namespace Token

/-- What a token is, together with the symbol or keyword it stands for. -/
inductive Kind where
  | identifier
  | connective (connective : Connective)
  | comparator (comparator : Comparator)
  | string
  | number
  | openGroup
  | closeGroup
deriving Repr, DecidableEq

end Token

/-- A token of a filter expression. -/
structure Token where
  kind : Token.Kind
  text : Text
  position : Nat
  spacedBefore : Bool
  spacedAfter : Bool
deriving Repr, DecidableEq

end ListQuery.Filter
