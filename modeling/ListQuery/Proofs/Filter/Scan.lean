import ListQuery.Proofs.Filter.Lexeme

/-!
# What tokens a text has

`Scans` relates a text to its tokens without reading it: blanks, a token, blanks, a token, and so
on, where each token has the shape of its kind, is not continued by what follows it, and knows
its position and the blanks beside it. `tokenize_eq_ok_iff` says that this is what cutting a
text into tokens finds.
-/

namespace ListQuery.Filter

open Text

/-- Whether a blank comes first. -/
def beginsBlank (text : Text) : Bool :=
  text.head?.any isAsciiBlank

/-- A text, the first code point of which has the given position, has the given tokens. -/
inductive Scans : (position : Nat) → Text → List Token → Prop where
  | blanks {position : Nat} {text : Text} (blank : Within isAsciiBlank text) :
      Scans position text []
  | token {position : Nat} {gap text after : Text} {kind : Token.Kind} {rest : List Token}
      (blank : Within isAsciiBlank gap) (shape : Lexeme.Shape (some kind) text)
      (boundary : ∀ c ∈ after.head?, ¬ Lexeme.Continues ⟨some kind, text⟩ c)
      (later : Scans (position + gap.length + text.length) after rest) :
      Scans position (gap ++ text ++ after)
        (⟨kind, text, position + gap.length, gap ≠ [], beginsBlank after⟩ :: rest)

namespace Lexeme

/-- A lexeme has a first code point, which is a blank exactly in a run of blanks. -/
theorem Shape.first {kind : Option Token.Kind} {text : Text} (shape : Shape kind text) :
    ∃ c rest, text = c :: rest ∧ isAsciiBlank c = kind.isNone := by
  have ofWord : ∀ {word : Text}, word ≠ [] → Within isWordChar word →
      ∃ c rest, word = c :: rest ∧ isAsciiBlank c = false := by
    intro word nonempty inside
    cases word with
    | nil => exact absurd rfl nonempty
    | cons c rest =>
      exact ⟨c, rest, rfl, isAsciiBlank_of_isWordChar (within_cons.1 inside).1⟩
  have ofDigits : ∀ {digits : Text}, DigitRun digits →
      ∃ c rest, digits = c :: rest ∧ isAsciiBlank c = false :=
    fun run => ofWord run.nonempty fun c member => isWordChar_of_isAsciiDigit (run.digits c member)
  cases shape with
  | blanks nonempty blank =>
    cases text with
    | nil => exact absurd rfl nonempty
    | cons c rest => exact ⟨c, rest, rfl, (within_cons.1 blank).1⟩
  | quoted value => exact ⟨_, _, rfl, rfl⟩
  | doubleQuoted plain => exact ⟨_, _, rfl, rfl⟩
  | whole run => exact ofDigits run
  | fractional run fractionRun =>
    obtain ⟨c, rest, rfl, noBlank⟩ := ofDigits run
    exact ⟨c, _, rfl, noBlank⟩
  | identifier word unreserved => exact ofWord word.nonempty word.word
  | connective word keyword => exact ofWord word.nonempty word.word
  | comparator comparator => cases comparator <;> exact ⟨_, _, rfl, rfl⟩
  | openGroup => exact ⟨_, _, rfl, rfl⟩
  | closeGroup => exact ⟨_, _, rfl, rfl⟩

/-- A text begins with a blank exactly if its lexemes do. -/
theorem startsBlank_of_ofText {text : Text} {lexemes : List Lexeme}
    (cut : ofText text = .ok lexemes) : startsBlank lexemes = beginsBlank text := by
  obtain ⟨rfl, rfl⟩ | ⟨lexeme, rest, later, taken, -, rfl⟩ := ofText_eq_ok_iff.1 cut
  · rfl
  · have part := next?_sound taken
    obtain ⟨c, after, same, first⟩ := part.shape.first
    simp [part.parts, same, startsBlank, beginsBlank, first]

/-- The tokens among the lexemes of a text are the tokens that it has. Blanks that were already
passed belong to the gap in front of the first one. -/
theorem scans_of_ofText {text : Text} {lexemes : List Lexeme} (cut : ofText text = .ok lexemes)
    (position : Nat) {gap : Text} (blank : Within isAsciiBlank gap) :
    Scans position (gap ++ text) (tokens (position + gap.length) (gap ≠ []) lexemes) := by
  induction lexemes generalizing text gap position with
  | nil =>
    obtain ⟨rfl, -⟩ | ⟨_, _, _, _, _, impossible⟩ := ofText_eq_ok_iff.1 cut
    · exact .blanks (by simpa using blank)
    · simp at impossible
  | cons lexeme later ih =>
    obtain ⟨-, impossible⟩ | ⟨_, rest, _, taken, cutRest, same⟩ := ofText_eq_ok_iff.1 cut
    · simp at impossible
    cases same
    have part := next?_sound taken
    have lexes : rest ≠ [] → next? rest ≠ none := by
      intro nonempty
      obtain ⟨isEmpty, -⟩ | ⟨_, _, _, takenRest, -, -⟩ := ofText_eq_ok_iff.1 cutRest
      · exact absurd isEmpty nonempty
      · simp [takenRest]
    have boundary : ∀ c ∈ rest.head?, ¬ Continues lexeme c := by
      intro c first
      refine part.boundary (lexes ?_) c first
      rintro rfl
      simp at first
    have shape := part.shape
    rw [part.parts]
    obtain ⟨kind, body⟩ := lexeme
    cases kind with
    | none =>
      cases shape with
      | blanks nonempty inside =>
        have joined : Within isAsciiBlank (gap ++ body) := by
          intro c member
          exact (List.mem_append.1 member).elim (blank c) (inside c)
        simpa [tokens, nonempty, Nat.add_assoc] using ih cutRest position joined
    | some kind =>
      have behind := ih cutRest (position + gap.length + body.length) within_nil
      have scanned := Scans.token blank shape boundary (by simpa using behind)
      simpa [tokens, startsBlank_of_ofText cutRest] using scanned

/-- A text that has some tokens is cut into lexemes among which they are found. -/
theorem ofText_of_scans {position : Nat} {text : Text} {found : List Token}
    (scans : Scans position text found) :
    ∃ lexemes, ofText text = .ok lexemes ∧ tokens position false lexemes = found := by
  induction scans with
  | @blanks position text blank =>
    by_cases empty : text = []
    · exact ⟨[], by simp [empty], rfl⟩
    · have ends : ∀ c ∈ ([] : Text).head?, ¬ Continues ⟨none, text⟩ c := by simp
      have taken := next?_append (.blanks empty blank) ends
      rw [List.append_nil] at taken
      exact ⟨[⟨none, text⟩], ofText_cons taken ofText_nil, rfl⟩
  | @token position gap body after kind rest blank shape boundary later ih =>
    obtain ⟨lexemes, cut, same⟩ := ih
    have cutBody := ofText_cons (next?_append shape boundary) cut
    by_cases empty : gap = []
    · refine ⟨⟨some kind, body⟩ :: lexemes, by simpa [empty] using cutBody, ?_⟩
      subst empty
      simp at same
      simp [tokens, startsBlank_of_ofText cut, same]
    · obtain ⟨c, more, first, noBlank⟩ := shape.first
      have ends : ∀ c ∈ (body ++ after).head?, ¬ Continues ⟨none, gap⟩ c := by
        simp [first, Continues, noBlank]
      have cutGap := ofText_cons (next?_append (.blanks empty blank) ends) cutBody
      refine ⟨⟨none, gap⟩ :: ⟨some kind, body⟩ :: lexemes, by simpa using cutGap, ?_⟩
      simp [tokens, startsBlank_of_ofText cut, same, empty]

end Lexeme

/-- Cutting a text into tokens finds exactly the tokens that it has. -/
theorem tokenize_eq_ok_iff {raw : Text} {tokens : List Token} :
    tokenize raw = .ok tokens ↔ Scans 0 raw tokens := by
  rw [tokenize, map_eq_ok_iff]
  constructor
  · rintro ⟨lexemes, cut, rfl⟩
    simpa using Lexeme.scans_of_ofText cut 0 within_nil
  · exact Lexeme.ofText_of_scans

/-- A text begins with a blank exactly if there is a gap before its first token. -/
theorem beginsBlank_append {gap text : Text} {kind : Token.Kind} (after : Text)
    (blank : Within isAsciiBlank gap) (shape : Lexeme.Shape (some kind) text) :
    beginsBlank (gap ++ text ++ after) = decide (gap ≠ []) := by
  cases gap with
  | nil =>
    obtain ⟨c, rest, rfl, first⟩ := shape.first
    simpa [beginsBlank] using first
  | cons c gap =>
    simpa [beginsBlank] using (within_cons.1 blank).1

/-- The first token of a text lies behind a gap, and the others lie in what follows it. -/
theorem Scans.first {position : Nat} {text : Text} {token : Token} {rest : List Token}
    (scans : Scans position text (token :: rest)) :
    ∃ gap after, text = gap ++ token.text ++ after ∧ Within isAsciiBlank gap ∧
      Lexeme.Shape (some token.kind) token.text ∧ beginsBlank text = decide (gap ≠ []) ∧
      token.spacedBefore = decide (gap ≠ []) ∧ token.spacedAfter = beginsBlank after ∧
      Scans (position + gap.length + token.text.length) after rest := by
  cases scans with
  | @token _ gap body after kind _ blank shape boundary later =>
    exact ⟨gap, after, rfl, blank, shape, beginsBlank_append after blank shape, rfl, rfl, later⟩

/-- Only a single-quoted string ends in a single quote. -/
theorem Lexeme.Shape.of_getLast?_quote {kind : Token.Kind} {text : Text}
    (shape : Lexeme.Shape (some kind) text) (ends : text.getLast? = some Quoted.quote) :
    kind = .string ∧ text.head? = some Quoted.quote := by
  have outside : ∀ {word : Text}, Within isWordChar word → Quoted.quote ∉ word :=
    fun inside => inside.not_mem (by decide)
  have ofDigits : ∀ {digits : Text}, DigitRun digits → Quoted.quote ∉ digits :=
    fun run => outside fun c member => isWordChar_of_isAsciiDigit (run.digits c member)
  have member := List.mem_of_getLast? ends
  generalize isKind : some kind = given at shape
  cases shape with
  | blanks nonempty blank => cases isKind
  | quoted value => exact ⟨Option.some.inj isKind, rfl⟩
  | doubleQuoted plain =>
    rw [← List.cons_append, List.getLast?_concat] at ends
    exact absurd ends (by decide)
  | whole run => exact absurd member (ofDigits run)
  | fractional run fractionRun =>
    rcases List.mem_append.1 member with inWhole | inRest
    · exact absurd inWhole (ofDigits run)
    · rcases List.mem_cons.1 inRest with isPoint | inFraction
      · exact absurd isPoint (by decide)
      · exact absurd inFraction (ofDigits fractionRun)
  | identifier word unreserved => exact absurd member (outside word.word)
  | connective word keyword => exact absurd member (outside word.word)
  | comparator comparator => cases comparator <;> exact absurd ends (by decide)
  | openGroup => exact absurd ends (by decide)
  | closeGroup => exact absurd ends (by decide)

/-- Every token of a text stands at its position, has the shape of its kind and is not continued by
what follows it. No two quotes meet at its start. -/
theorem Scans.exists_around {position : Nat} {text : Text} {tokens : List Token}
    (scans : Scans position text tokens) {token : Token} (member : token ∈ tokens) :
    ∃ before after, text = before ++ token.text ++ after ∧
      token.position = position + before.length ∧
      Lexeme.Shape (some token.kind) token.text ∧
      (∀ c ∈ after.head?, ¬ Lexeme.Continues ⟨some token.kind, token.text⟩ c) ∧
      (token.text.head? = some Quoted.quote → before.getLast? ≠ some Quoted.quote) := by
  induction scans with
  | blanks blank => cases member
  | @token position gap body rest kind later blank shape boundary scansRest ih =>
    rcases List.mem_cons.1 member with rfl | behind
    · refine ⟨gap, rest, rfl, rfl, shape, boundary, fun _ last => ?_⟩
      exact blank.not_mem (by decide) (List.mem_of_getLast? last)
    · obtain ⟨before, after, same, place, isShape, ends, apart⟩ := ih behind
      refine ⟨gap ++ body ++ before, after, ?_, ?_, isShape, ends, fun opens last => ?_⟩
      · simp [same]
      · rw [place, List.length_append, List.length_append]
        omega
      · cases before with
        | cons c before =>
          rw [List.getLast?_append_cons] at last
          exact apart opens last
        | nil =>
          obtain ⟨c, more, isBody, -⟩ := shape.first
          have bodyLast : body.getLast? = some Quoted.quote := by
            rwa [List.append_nil, isBody, List.getLast?_append_cons, ← isBody] at last
          obtain ⟨rfl, bodyOpens⟩ := shape.of_getLast?_quote bodyLast
          have meets : rest.head? = some Quoted.quote := by
            rw [same, List.nil_append, List.head?_append, opens]
            rfl
          exact boundary _ meets ⟨bodyOpens, rfl⟩

/-- A text without tokens is blank. -/
theorem Scans.blank {position : Nat} {text : Text} (scans : Scans position text []) :
    Within isAsciiBlank text := by
  cases scans with
  | blanks blank => exact blank

end ListQuery.Filter
