import ListQuery.Proofs.Filter.Adjacency
import ListQuery.Proofs.Filter.Recognition

/-!
# Where the tokens of a text stand

Cutting a text into tokens loses nothing. Each token stands where its position says and knows the
blanks beside it, tokens come one behind the other, and what they leave out is blank (`Accounts`).
Where a text cannot be cut, everything in front of that place can, and the code point there is one
of the few that may fail to start a token (`Stuck`).
-/

namespace ListQuery.Filter

open Text

/-- The position behind a token. -/
def Token.stop (token : Token) : Nat :=
  token.position + token.text.length

/-! ## A token and what stands beside it -/

/-- A token divides a text into what stands before it and what stands after it, and knows whether
a blank is next to it on either side. -/
structure Token.Divides (token : Token) (position : Nat) (text before after : Text) : Prop where
  parts : text = before ++ token.text ++ after
  place : token.position = position + before.length
  spacedBefore : token.spacedBefore = endsBlank before
  spacedAfter : token.spacedAfter = beginsBlank after

/-- Every token of a text divides it. -/
theorem Scans.exists_divides {position : Nat} {text : Text} {tokens : List Token}
    (scans : Scans position text tokens) {token : Token} (member : token ∈ tokens) :
    ∃ before after, token.Divides position text before after := by
  induction scans with
  | blanks blank => cases member
  | @token position gap body rest kind later blank shape boundary scansRest ih =>
    rcases List.mem_cons.1 member with rfl | behind
    · refine ⟨gap, rest, rfl, rfl, ?_, rfl⟩
      by_cases empty : gap = []
      · simp [empty, endsBlank]
      · have last := blank _ (List.getLast_mem empty)
        simp [empty, endsBlank, List.getLast?_eq_some_getLast empty, last]
    · obtain ⟨before, after, same, place, spacedBefore, spacedAfter⟩ := ih behind
      refine ⟨gap ++ body ++ before, after, by simp [same], ?_, ?_, spacedAfter⟩
      · rw [place, List.length_append, List.length_append]
        omega
      · -- Where nothing lies in between, the token before it comes last.
        obtain ⟨c, last, plain, -⟩ := shape.last
        rw [spacedBefore]
        cases before with
        | nil => simp [endsBlank, List.getLast?_append, last, plain]
        | cons d before =>
          rw [endsBlank, endsBlank, List.getLast?_append_cons]

/-- The kind of a token that is made of word characters: a number if they are digits, and else
what the word is. -/
theorem Lexeme.Shape.kind_of_word {kind : Token.Kind} {text : Text}
    (shape : Lexeme.Shape (some kind) text) (word : Within isWordChar text) :
    Within isAsciiDigit text ∧ kind = .number ∨ IsWord text ∧ kind = Lexeme.wordKind text := by
  generalize isKind : some kind = given at shape
  cases shape with
  | blanks nonempty blank => cases isKind
  | quoted value => exact absurd (word Quoted.quote (by simp [Quoted.encode])) (by decide)
  | doubleQuoted plain => exact absurd (word (.scalar '\x22') (by simp)) (by decide)
  | whole run => exact .inl ⟨run.digits, Option.some.inj isKind⟩
  | fractional run fractionRun => exact absurd (word (.scalar '.') (by simp)) (by decide)
  | identifier isWord unreserved =>
    refine .inr ⟨isWord, ?_⟩
    rw [Lexeme.wordKind, (Lexeme.ofKeyword?_eq_none_iff word).2 unreserved]
    exact Option.some.inj isKind
  | connective isWord keyword =>
    refine .inr ⟨isWord, ?_⟩
    rw [Lexeme.wordKind, (Lexeme.ofKeyword?_eq_some_iff word).2 keyword]
    exact Option.some.inj isKind
  | comparator comparator => cases comparator <;> exact absurd word (by decide)
  | openGroup => exact absurd word (by decide)
  | closeGroup => exact absurd word (by decide)

/-! ## All tokens of a text -/

/-- Tokens of a text lie behind the position where the text starts. -/
theorem Scans.position_le {position : Nat} {text : Text} {tokens : List Token}
    (scans : Scans position text tokens) {token : Token} (member : token ∈ tokens) :
    position ≤ token.position := by
  obtain ⟨before, after, divides⟩ := scans.exists_divides member
  rw [divides.place]
  exact Nat.le_add_right _ _

/-- Each token of a text ends before the next one starts. -/
theorem Scans.pairwise_stop_le {position : Nat} {text : Text} {tokens : List Token}
    (scans : Scans position text tokens) :
    tokens.Pairwise fun left right => left.stop ≤ right.position := by
  induction scans with
  | blanks blank => exact .nil
  | token blank shape boundary scansRest ih =>
    exact List.pairwise_cons.2 ⟨fun token member => scansRest.position_le member, ih⟩

/-- What a text holds at an index is a blank or a part of a token. -/
theorem Scans.covers {position : Nat} {text : Text} {tokens : List Token}
    (scans : Scans position text tokens) {index : Nat} {c : CodePoint}
    (found : text[index]? = some c) :
    isAsciiBlank c = true ∨
      ∃ token ∈ tokens, token.position ≤ position + index ∧ position + index < token.stop := by
  induction scans generalizing index with
  | blanks blank => exact .inl (blank c (List.mem_of_getElem? found))
  | @token position gap body after kind later blank shape boundary scansRest ih =>
    by_cases inGap : index < gap.length
    · rw [List.append_assoc, List.getElem?_append_left inGap] at found
      exact .inl (blank c (List.mem_of_getElem? found))
    by_cases inBody : index < gap.length + body.length
    · exact .inr ⟨_, List.mem_cons_self, by simp only; omega, by simp only [Token.stop]; omega⟩
    · rw [List.getElem?_append_right (by simp; omega), List.length_append] at found
      refine (ih found).imp_right ?_
      rintro ⟨other, member, starts, stops⟩
      exact ⟨other, List.mem_cons_of_mem _ member, by omega, by omega⟩

/-- A token stands in a text where its position says. It knows the blanks beside it, and if it is
made of word characters, these say what kind it is. -/
structure Token.Stands (token : Token) (raw : Text) : Prop where
  nonempty : token.text ≠ []
  part : (raw.drop token.position).take token.text.length = token.text
  spacedBefore : token.spacedBefore = endsBlank (raw.take token.position)
  spacedAfter : token.spacedAfter = beginsBlank (raw.drop token.stop)
  number : Within isAsciiDigit token.text → token.kind = .number
  connective : ∀ connective, IsKeyword connective token.text →
    token.kind = .connective connective
  identifier : Within isWordChar token.text → ¬ Within isAsciiDigit token.text →
    (∀ connective, ¬ IsKeyword connective token.text) → token.kind = .identifier

/-- Every token of a whole text stands in it. -/
theorem Scans.stands {raw : Text} {tokens : List Token} (scans : Scans 0 raw tokens)
    {token : Token} (member : token ∈ tokens) : token.Stands raw := by
  obtain ⟨-, -, -, -, shape, -⟩ := scans.exists_around member
  obtain ⟨before, after, parts, place, spacedBefore, spacedAfter⟩ := scans.exists_divides member
  rw [Nat.zero_add] at place
  constructor
  · obtain ⟨c, rest, same, -⟩ := shape.first
    simp [same]
  · simp [parts, place]
  · simpa [parts, place] using spacedBefore
  · simpa [parts, Token.stop, place] using spacedAfter
  · intro digits
    have word : Within isWordChar token.text :=
      fun c inside => isWordChar_of_isAsciiDigit (digits c inside)
    obtain ⟨-, isNumber⟩ | ⟨isWord, -⟩ := shape.kind_of_word word
    · exact isNumber
    · exact absurd digits isWord.notDigits
  · intro connective keyword
    have isWord := keyword.isWord
    obtain ⟨digits, -⟩ | ⟨-, isKind⟩ := shape.kind_of_word isWord.word
    · exact absurd digits isWord.notDigits
    · rw [isKind, Lexeme.wordKind, (Lexeme.ofKeyword?_eq_some_iff isWord.word).2 keyword]
  · intro word notDigits unreserved
    obtain ⟨digits, -⟩ | ⟨-, isKind⟩ := shape.kind_of_word word
    · exact absurd digits notDigits
    · rw [isKind, Lexeme.wordKind, (Lexeme.ofKeyword?_eq_none_iff word).2 unreserved]

/-- Some tokens account for all of a text: each stands in it, none overlaps the next one, and what
lies in no token is blank. -/
structure Accounts (raw : Text) (tokens : List Token) : Prop where
  stands : ∀ token ∈ tokens, token.Stands raw
  ordered : tokens.Pairwise fun left right => left.stop ≤ right.position
  covered : ∀ index c, raw[index]? = some c →
    (∀ token ∈ tokens, ¬ (token.position ≤ index ∧ index < token.stop)) → isAsciiBlank c = true

/-- The tokens of a whole text account for it. -/
theorem Scans.accounts {raw : Text} {tokens : List Token} (scans : Scans 0 raw tokens) :
    Accounts raw tokens where
  stands := fun _ member => scans.stands member
  ordered := scans.pairwise_stop_le
  covered := by
    intro index c found outside
    refine (scans.covers found).resolve_right ?_
    rintro ⟨token, member, starts, stops⟩
    rw [Nat.zero_add] at starts stops
    exact outside token member ⟨starts, stops⟩

/-! ## Where no lexeme starts -/

/-- No lexeme starts with a code point in front of a text: none does in front of any text, or an
exclamation mark lacks its equals sign, or a quote is not closed. -/
inductive Stuck (c : CodePoint) (after : Text) : Prop where
  | foreign (never : ∀ rest, Lexeme.next? (c :: rest) = none)
  | unequal (isMark : c = .scalar '!') (alone : after.head? ≠ some (.scalar '='))
  | unclosed (isQuote : c = Quoted.quote ∨ c = .scalar '\x22') (noLater : c ∉ after)

namespace Lexeme

/-- A single-quoted string is closed exactly if another quote follows. -/
theorem closeQuoted?_eq_none_iff {text : Text} :
    closeQuoted? text = none ↔ Quoted.quote ∉ text := by
  fun_induction closeQuoted? text with
  | case1 => simp
  | case2 => simp
  | case3 c plain => simpa using Ne.symm plain
  | case4 => simp
  | case5 => simp
  | case6 => simp
  | case7 c d after plain ih => simp [ih, Ne.symm plain]

/-- A double-quoted string is closed exactly if another double quote follows. -/
theorem closeDoubleQuoted?_eq_none_iff {text : Text} :
    closeDoubleQuoted? text = none ↔ CodePoint.scalar '\x22' ∉ text := by
  fun_induction closeDoubleQuoted? text with
  | case1 => simp
  | case2 => simp
  | case3 c after other ih => simp [ih, Ne.symm other]

/-- No comparator is found if the first code point starts none, or is an exclamation mark without
an equals sign. -/
theorem comparator?_eq_none_iff {c : CodePoint} {after : Text} :
    comparator? (c :: after) = none ↔
      c ≠ .scalar '=' ∧ c ≠ .scalar '<' ∧ c ≠ .scalar '>' ∧
        (c = .scalar '!' → after.head? ≠ some (.scalar '=')) := by
  constructor
  · intro missing
    unfold comparator? at missing
    split at missing <;> simp at missing
    rename_i _ _ mark less greater equals
    refine ⟨?_, ?_, ?_, ?_⟩
    · rintro rfl
      exact equals _ rfl
    · rintro rfl
      exact less _ rfl
    · rintro rfl
      exact greater _ rfl
    · rintro rfl first
      obtain ⟨rest, rfl⟩ := List.head?_eq_some_iff.1 first
      exact mark _ rfl
  · rintro ⟨equals, less, greater, mark⟩
    unfold comparator?
    split <;> simp_all

/-- Without a lexeme in front of them, a code point is stuck before the others. -/
theorem stuck_of_next? {c : CodePoint} {after : Text} (missing : next? (c :: after) = none) :
    Stuck c after := by
  unfold next? at missing
  simp only at missing
  split at missing
  · cases missing
  rename_i noBlank
  split at missing
  · rename_i isQuote
    rw [Option.map_eq_none_iff, closeQuoted?_eq_none_iff] at missing
    exact .unclosed (.inl isQuote) (isQuote ▸ missing)
  rename_i noQuote
  split at missing
  · rename_i isQuote
    rw [Option.map_eq_none_iff, closeDoubleQuoted?_eq_none_iff] at missing
    exact .unclosed (.inr isQuote) (isQuote ▸ missing)
  rename_i noDoubleQuote
  split at missing
  · split at missing <;> cases missing
  rename_i noWord
  split at missing
  · cases missing
  rename_i noOpen
  split at missing
  · cases missing
  rename_i noClose
  rw [Option.map_eq_none_iff, comparator?_eq_none_iff] at missing
  obtain ⟨noEquals, noLess, noGreater, alone⟩ := missing
  by_cases isMark : c = .scalar '!'
  · exact .unequal isMark (alone isMark)
  · refine .foreign fun rest => ?_
    have missing : comparator? (c :: rest) = none :=
      comparator?_eq_none_iff.2 ⟨noEquals, noLess, noGreater, fun mark => absurd mark isMark⟩
    simp [next?, noBlank, noQuote, noDoubleQuote, noWord, noOpen, noClose, missing]

/-- No lexeme is cut off a text exactly if its first code point is stuck in front of the others. -/
theorem next?_eq_none_iff {c : CodePoint} {after : Text} :
    next? (c :: after) = none ↔ Stuck c after := by
  refine ⟨stuck_of_next?, fun stuck => ?_⟩
  cases stuck with
  | foreign never => exact never after
  | unequal isMark alone =>
    subst isMark
    have missing : comparator? (.scalar '!' :: after) = none :=
      comparator?_eq_none_iff.2 ⟨by decide, by decide, by decide, fun _ => alone⟩
    have first : isAsciiBlank (.scalar '!') = false ∧ CodePoint.scalar '!' ≠ Quoted.quote ∧
        isWordChar (.scalar '!') = false := by decide
    simp [next?, first, missing]
  | unclosed isQuote noLater =>
    rcases isQuote with rfl | rfl
    · have missing := closeQuoted?_eq_none_iff.2 noLater
      have noBlank : isAsciiBlank Quoted.quote = false := by decide
      simp [next?, noBlank, missing]
    · have missing := closeDoubleQuoted?_eq_none_iff.2 noLater
      have noBlank : isAsciiBlank (.scalar '\x22') = false := by decide
      simp [next?, noBlank, missing, Quoted.quote]

/-- A text is not cut into lexemes if none starts it, or if what the first one leaves is not. -/
theorem ofText_eq_error_iff {text : Text} {rejection : Rejection} :
    ofText text = .error rejection ↔
      text ≠ [] ∧ next? text = none ∧ rejection = .expecting .malformed text hint ∨
        ∃ lexeme rest, next? text = some (lexeme, rest) ∧ ofText rest = .error rejection := by
  by_cases empty : text = []
  · subst empty
    simp [next?]
  · rw [ofText, if_neg empty]
    split
    · rename_i missing
      simp [empty, missing, eq_comm]
    · rename_i lexeme rest taken
      cases cut : ofText rest <;> simp [taken, cut, Except.map]

/-- A text that is not cut into lexemes is cut up to a code point that is stuck, and is blamed from
there on. -/
theorem exists_stuck {text : Text} {rejection : Rejection}
    (failed : ofText text = .error rejection) :
    ∃ before c after, text = before ++ c :: after ∧
      rejection = .expecting .malformed (c :: after) hint ∧ Stuck c after ∧
      (∃ lexemes, ofText before = .ok lexemes) ∧ (before ≠ [] → next? text ≠ none) := by
  induction size : text.length using Nat.strongRecOn generalizing text with
  | ind size ih =>
    subst size
    obtain ⟨nonempty, missing, rfl⟩ | ⟨lexeme, rest, taken, failedRest⟩ :=
      ofText_eq_error_iff.1 failed
    · obtain ⟨c, after, rfl⟩ := List.exists_cons_of_ne_nil nonempty
      exact ⟨[], c, after, rfl, rfl, next?_eq_none_iff.1 missing, ⟨[], ofText_nil⟩,
        fun some => absurd rfl some⟩
    · obtain ⟨before, c, after, same, blamed, stuck, ⟨lexemes, cut⟩, lexes⟩ :=
        ih _ (next?_length taken) failedRest rfl
      have part := next?_sound taken
      -- The lexeme ends where it did: what follows it is the same, or the end of the text.
      have boundary : ∀ d ∈ before.head?, ¬ Continues lexeme d := by
        cases before with
        | nil => simp
        | cons d before =>
          rw [same] at part
          exact part.boundary (same ▸ lexes (by simp))
      refine ⟨lexeme.text ++ before, c, after, ?_, blamed, stuck, ?_, fun _ => by simp [taken]⟩
      · rw [part.parts, same, List.append_assoc]
      · exact ⟨_, ofText_cons (next?_append part.shape boundary) cut⟩

end Lexeme

/-! ## Whole texts -/

/-- Cutting a text into tokens loses nothing, and its faults are located. The tokens of a text
account for all of it. If a text has no tokens, it is blamed from a code point on that is stuck
there, and what stands in front of that has tokens. -/
theorem tokenize_accounts (raw : Text) :
    (∀ tokens, tokenize raw = .ok tokens → Accounts raw tokens) ∧
      ∀ rejection, tokenize raw = .error rejection →
        ∃ before c after, raw = before ++ c :: after ∧
          rejection =
            { reason := .malformed
              token := some (c :: after)
              expected := some "identifier, comparator, parenthesis, quoted string or number" } ∧
          (∃ tokens, tokenize before = .ok tokens) ∧ Stuck c after := by
  constructor
  · intro tokens cut
    exact (tokenize_eq_ok_iff.1 cut).accounts
  · intro rejection failed
    obtain ⟨before, c, after, same, blamed, stuck, ⟨lexemes, cut⟩, -⟩ :=
      Lexeme.exists_stuck (map_eq_error_iff.1 failed)
    exact ⟨before, c, after, same, blamed, ⟨_, map_eq_ok_iff.2 ⟨lexemes, cut, rfl⟩⟩, stuck⟩

/-- A fraction is accounted for, but not one that a letter follows: that is given up at its
point. -/
theorem tokenize_accounts_fraction :
    (tokenize " n>=1.5 Or" = .ok
        [⟨.identifier, "n", 1, true, false⟩, ⟨.comparator .greaterOrEqual, ">=", 2, false, false⟩,
          ⟨.number, "1.5", 4, false, true⟩, ⟨.connective .or, "Or", 8, true, false⟩] ∧
      Accounts " n>=1.5 Or"
        [⟨.identifier, "n", 1, true, false⟩, ⟨.comparator .greaterOrEqual, ">=", 2, false, false⟩,
          ⟨.number, "1.5", 4, false, true⟩, ⟨.connective .or, "Or", 8, true, false⟩]) ∧
      tokenize "n=1.5x" = .error ⟨.malformed, some ".5x",
        some "identifier, comparator, parenthesis, quoted string or number"⟩ ∧
      ∃ before c after, ("n=1.5x" : Text) = before ++ c :: after ∧
        (".5x" : Text) = c :: after ∧
        (∃ tokens, tokenize before = .ok tokens) ∧ Stuck c after := by
  have failed : tokenize "n=1.5x" = .error ⟨.malformed, some ".5x",
      some "identifier, comparator, parenthesis, quoted string or number"⟩ := by
    decide +kernel
  refine ⟨⟨by decide +kernel, (tokenize_accounts _).1 _ (by decide +kernel)⟩, failed, ?_⟩
  obtain ⟨before, c, after, same, blamed, cut, stuck⟩ := (tokenize_accounts _).2 _ failed
  exact ⟨before, c, after, same, Option.some.inj (Rejection.mk.inj blamed).2.1, cut, stuck⟩

end ListQuery.Filter
