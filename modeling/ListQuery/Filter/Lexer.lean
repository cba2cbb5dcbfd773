import ListQuery.Filter.Lexeme
import ListQuery.Rejection

/-!
# Lexing filters

A filter is cut into lexemes from left to right. Blanks are dropped, but each token remembers
those beside it. The first place where no lexeme starts, an unclosed quote included, is
reported with everything from there on.
-/

namespace ListQuery.Filter

namespace Lexeme

/-- What may start a lexeme, as a hint to the client. -/
def hint : Text :=
  "identifier, comparator, parenthesis, quoted string or number"

/-- The lexemes of a text, blanks included. -/
def ofText (text : Text) : Except Rejection (List Lexeme) :=
  if text = [] then .ok []
  else
    match _ : next? text with
    | none => .error (.expecting .malformed text hint)
    | some (lexeme, rest) => (ofText rest).map (lexeme :: ·)
termination_by text.length
decreasing_by exact next?_length ‹_›

/-- Whether a run of blanks comes first. -/
def startsBlank : List Lexeme → Bool
  | [] => false
  | lexeme :: _ => lexeme.kind.isNone

/-- The tokens among some lexemes, the first of which stands at `position` and is preceded by
blanks if `spaced`. -/
def tokens (position : Nat) (spaced : Bool) : List Lexeme → List Token
  | [] => []
  | lexeme :: rest =>
    match lexeme.kind with
    | none => tokens (position + lexeme.text.length) true rest
    | some kind =>
      ⟨kind, lexeme.text, position, spaced, startsBlank rest⟩ ::
        tokens (position + lexeme.text.length) false rest

end Lexeme

/-- The tokens of a filter expression. -/
def tokenize (raw : Text) : Except Rejection (List Token) :=
  (Lexeme.ofText raw).map (Lexeme.tokens 0 false)

end ListQuery.Filter
