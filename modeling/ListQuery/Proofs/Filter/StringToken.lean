import ListQuery.Proofs.Filter.Literal
import ListQuery.Proofs.Filter.Scan

/-!
# String tokens are string literals

A text is cut into tokens, and a token is read as a literal, by two different rules. They agree on
single quotes: a string token is the longest quoted form at its place (`closeQuoted?_longest`), it
is read as a string, and a text that is read as a string is one token.
-/

namespace ListQuery.Filter

open Text

/-- Wherever a string can be closed, it is, and no doubled text with a quote behind it reaches
further than the one that closes it. -/
theorem Lexeme.closeQuoted?_longest (value rest : Text) :
    ∃ body left, closeQuoted? (Quoted.double value ++ Quoted.quote :: rest) = some (body, left) ∧
      (Quoted.double value).length < body.length := by
  induction value with
  | nil =>
    cases rest with
    | nil => exact ⟨[Quoted.quote], [], rfl, by simp⟩
    | cons d rest =>
      by_cases isQuote : d = Quoted.quote
      · subst isQuote
        -- The quote is the first of a pair if the string can be closed behind the pair.
        cases closed : closeQuoted? rest with
        | none =>
          exact ⟨[Quoted.quote], Quoted.quote :: rest, by simp [closeQuoted?, closed], by simp⟩
        | some closing =>
          obtain ⟨body, left⟩ := closing
          exact ⟨Quoted.quote :: Quoted.quote :: body, left, by simp [closeQuoted?, closed],
            by simp⟩
      · exact ⟨[Quoted.quote], d :: rest, by simp [closeQuoted?, isQuote], by simp⟩
  | cons c value ih =>
    obtain ⟨body, left, closed, longer⟩ := ih
    by_cases isQuote : c = Quoted.quote
    · subst isQuote
      exact ⟨Quoted.quote :: Quoted.quote :: body, left, by simp [closeQuoted?, closed],
        by simp [longer]⟩
    · rw [Quoted.double_of_ne isQuote]
      obtain ⟨d, after, shape⟩ :
          ∃ d after, Quoted.double value ++ Quoted.quote :: rest = d :: after :=
        List.exists_cons_of_ne_nil (by simp)
      refine ⟨c :: body, left, ?_, by simp [longer]⟩
      rw [List.cons_append, shape, closeQuoted?, if_neg isQuote, ← shape, closed]
      rfl

/-- A quoted form that no quote follows is the longest one at its place. -/
theorem length_encode_le {value other after : Text}
    (boundary : after.head? ≠ some Quoted.quote)
    (starts : Quoted.encode other <+: Quoted.encode value ++ after) :
    (Quoted.encode other).length ≤ (Quoted.encode value).length := by
  obtain ⟨rest, same⟩ := starts
  have sameBehind : Quoted.double other ++ Quoted.quote :: rest =
      Quoted.double value ++ Quoted.quote :: after := by
    simpa [Quoted.encode] using same
  obtain ⟨body, left, closed, longer⟩ := Lexeme.closeQuoted?_longest other rest
  rw [sameBehind, Lexeme.closeQuoted?_double value boundary] at closed
  cases closed
  rw [List.length_append] at longer
  simpa [Quoted.encode] using Nat.le_of_lt_succ longer

/-- A string token that starts with a single quote is a quoted form. -/
theorem Lexeme.Shape.exists_encode {text : Text} (shape : Lexeme.Shape (some .string) text)
    (opens : text.head? = some Quoted.quote) : ∃ value, text = Quoted.encode value := by
  cases shape with
  | quoted value => exact ⟨value, rfl⟩
  | doubleQuoted plain => cases opens

/-- A quoted form is one token. -/
theorem tokenize_encode (value : Text) :
    tokenize (Quoted.encode value) = .ok [⟨.string, Quoted.encode value, 0, false, false⟩] := by
  have scans : Scans 0 ([] ++ Quoted.encode value ++ [])
      [⟨.string, Quoted.encode value, 0, false, false⟩] :=
    .token within_nil (.quoted value) (by simp) (.blanks within_nil)
  rw [List.nil_append, List.append_nil] at scans
  exact tokenize_eq_ok_iff.2 scans

/-- String tokens in single quotes and string literals are the same. In a text that has tokens,
such a token is read as a string, and it is the longest quoted form at its place with no quote on
either side, so that no doubled quote is cut in two. A text that is read as a string is one
token. -/
theorem string_tokens_are_string_literals :
    (∀ raw tokens, tokenize raw = .ok tokens → ∀ token ∈ tokens, token.kind = .string →
      token.text.head? = some Quoted.quote →
        (∃ value, Literal.ofToken? token.text = some (.string token.text value)) ∧
        ∃ before after, raw = before ++ token.text ++ after ∧ token.position = before.length ∧
          before.getLast? ≠ some Quoted.quote ∧ after.head? ≠ some Quoted.quote ∧
          ∀ value, Quoted.encode value <+: token.text ++ after →
            (Quoted.encode value).length ≤ token.text.length) ∧
    ∀ text raw value, Literal.ofToken? text = some (.string raw value) →
      tokenize text = .ok [⟨.string, text, 0, false, false⟩] := by
  constructor
  · intro raw tokens cut token member isString opens
    obtain ⟨before, after, same, place, shape, ends, apart⟩ :=
      (tokenize_eq_ok_iff.1 cut).exists_around member
    rw [isString] at shape ends
    have boundary : after.head? ≠ some Quoted.quote := fun first => ends _ first ⟨opens, rfl⟩
    obtain ⟨value, isQuoted⟩ := shape.exists_encode opens
    refine ⟨⟨value, ?_⟩, before, after, same, by simpa using place, apart opens, boundary, ?_⟩
    · rw [isQuoted]
      exact Literal.ofToken?_encode value
    · intro other starts
      rw [isQuoted] at starts ⊢
      exact length_encode_le boundary starts
  · intro text raw value read
    obtain ⟨rfl, -⟩ := Literal.ofToken?_eq_string_iff.1 read
    exact tokenize_encode value

/-- Where a string cannot be closed, half of a pair of quotes is given back, and the other half
starts no token. -/
example : (tokenize "'a'' b").map (·.map (·.text)) =
    .error (.expecting .malformed "' b" Lexeme.hint) := by
  decide +kernel

end ListQuery.Filter
