import ListQuery.Filter.Lexer
import ListQuery.Filter.Tree

/-!
# Reading trees from tokens

A tree is read by descent through the grammar

    expression := operand (CONNECTIVE operand)*
    operand    := "(" expression ")" | condition
    condition  := IDENTIFIER COMPARATOR (STRING | NUMBER)

with a bound on the nesting of groups. The first token that cannot continue the expression is
to blame. No allow-list is consulted here, so a structural fault does not depend on one. Every
reader returns the tokens it leaves with a proof that they are fewer, which is what ends the
descent.
-/

namespace ListQuery.Filter.Tree

open Text

/-- The most groups that may be open at one place. -/
def maxDepth : Nat := 32

/-- The most digits on one side of the point of a number. -/
def maxDigits : Nat := 15

/-- Whether a text is a nonempty run of ASCII digits within the limit. -/
def isDigitRun (text : Text) : Bool :=
  text ≠ [] && text.all isAsciiDigit && text.length ≤ maxDigits

/-- Whether a text is an ASCII number with a bounded digit run on each side of its point. -/
def isBoundedNumber (text : Text) : Bool :=
  isDigitRun (text.takeWhile isAsciiDigit) &&
    match text.dropWhile isAsciiDigit with
    | [] => true
    | c :: fraction => c = '.' && isDigitRun fraction

/-- What a reader makes of some tokens, and the tokens it leaves, which are fewer. -/
abbrev Step (α : Type) (tokens : List Token) :=
  { step : α × List Token // step.2.length < tokens.length }

/-- A literal that `comparator` may stand before. -/
def literalAfter (comparator : Comparator) (tokens : List Token) :
    Except Rejection (Step Text tokens) :=
  match tokens with
  | [] => .error (.expecting .badLiteral [] "quoted string or number")
  | token :: rest =>
    match token.kind with
    | .comparator _ => .error ⟨.badComparator, some (comparator.symbol ++ token.text), none⟩
    | .string =>
      if comparator.comparesStrings then .ok ⟨(token.text, rest), by simp⟩
      else .error (.expecting .badComparator comparator.symbol Comparator.stringHint)
    | .number =>
      if ! comparator.comparesNumbers then
        .error (.expecting .badComparator comparator.symbol Comparator.numberHint)
      else if isBoundedNumber token.text then .ok ⟨(token.text, rest), by simp⟩
      else
        .error (.expecting .badLiteral token.text
          "at most 15 integer and 15 fractional digits")
    | _ => .error (.expecting .badLiteral token.text "quoted string or number")

/-- A comparator and a literal that follow a column. -/
def comparisonAfter (column : Text) (tokens : List Token) :
    Except Rejection (Step Clause tokens) :=
  match tokens with
  | [] => .error (.expecting .malformed column "comparator")
  | token :: rest =>
    match token.kind with
    | .comparator comparator => do
      let ⟨(literal, rest), fewer⟩ ← literalAfter comparator rest
      .ok ⟨(⟨column, comparator, literal⟩, rest), by simp at fewer ⊢; omega⟩
    | _ => .error (.expecting .malformed token.text "comparator")

/-- A clause that starts with the token `first`. -/
def clauseFrom (first : Token) (tokens : List Token) :
    Except Rejection (Step Clause tokens) :=
  match first.kind with
  | .identifier => comparisonAfter first.text tokens
  | .connective _ => .error (.expecting .cardinalityMismatch first.text "column")
  | _ => .error (.expecting .malformed first.text "column")

/-- Whether the tokens of an expression end here: none is left, or a group closes. -/
def atGroupEnd : List Token → Bool
  | [] => true
  | token :: _ => token.kind = .closeGroup

/-- The connective that a token stands for between an operand and the tokens after it. -/
def connectiveBefore (token : Token) (tokens : List Token) : Except Rejection Connective :=
  match token.kind with
  | .connective connective =>
    if atGroupEnd tokens then
      .error (.expecting .cardinalityMismatch token.text "condition")
    else if token.spacedBefore && token.spacedAfter then .ok connective
    else .error (.expecting .malformed token.text "whitespace around connective")
  | _ => .error (.expecting .cardinalityMismatch token.text "AND or OR")

/-- The first operand of a chain. -/
inductive Operand where
  | clause (clause : Clause)
  | group (inner : Tree)

/-- The chain of one operand. -/
def Operand.alone : Operand → Tree
  | clause c => .clause c
  | group inner => .group inner

/-- The chain of an operand and those after it. -/
def Operand.joined (operand : Operand) (connective : Connective) (rest : Tree) : Tree :=
  match operand with
  | clause c => .clauseThen c connective rest
  | group inner => .groupThen inner connective rest

/-- The chain that `operand` starts: alone at the end of its group, else joined to the chain
that `expression` reads behind the connective. -/
def chainFrom (operand : Operand) (tokens : List Token)
    (expression : (rest : List Token) → rest.length < tokens.length →
      Except Rejection (Step Tree rest)) :
    Except Rejection { step : Tree × List Token // step.2.length ≤ tokens.length } :=
  match tokens with
  | [] => .ok ⟨(operand.alone, []), by simp⟩
  | token :: rest =>
    if token.kind = .closeGroup then .ok ⟨(operand.alone, token :: rest), by simp⟩
    else do
      let connective ← connectiveBefore token rest
      let ⟨(chain, left), fewer⟩ ← expression rest (by simp)
      .ok ⟨(operand.joined connective chain, left), by simp at fewer ⊢; omega⟩

/-- The chain at the start of some tokens, inside which `room` more groups may be nested. The
source text is blamed where tokens are missing. -/
def chain (source : Text) (room : Nat) (tokens : List Token) :
    Except Rejection (Step Tree tokens) :=
  match tokens with
  | [] => .error (.expecting .malformed source "column")
  | first :: later =>
    if first.kind = .openGroup then
      if room = 0 then
        .error (.expecting .malformed first.text "at most 32 nested groups")
      else do
        let ⟨(inner, rest), fewer⟩ ← chain source (room - 1) later
        match rest, fewer with
        | [], _ => .error (.expecting .malformed first.text "closing parenthesis")
        | _ :: rest, fewer =>
          let ⟨step, fewerStill⟩ ← chainFrom (.group inner) rest fun after shorter =>
            chain source room after
          .ok ⟨step, by simp at fewer ⊢; omega⟩
    else do
      let ⟨(head, rest), fewer⟩ ← clauseFrom first later
      let ⟨step, fewerStill⟩ ← chainFrom (.clause head) rest fun after shorter =>
        chain source room after
      .ok ⟨step, by simp at fewer ⊢; omega⟩
termination_by tokens.length
decreasing_by all_goals (simp only [List.length_cons] at *; omega)

/-- The tree that all tokens of a filter make up. -/
def ofTokens (source : Text) (tokens : List Token) : Except Rejection Tree :=
  if tokens = [] then .error (.expecting .malformed source "condition")
  else do
    let ⟨(tree, rest), _⟩ ← chain source maxDepth tokens
    match rest with
    | [] => .ok tree
    | token :: _ =>
      .error (.expecting .malformed token.text "matching opening parenthesis")

end ListQuery.Filter.Tree
