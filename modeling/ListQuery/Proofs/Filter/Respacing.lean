import ListQuery.Proofs.Filter.Adjacency
import ListQuery.Proofs.Filter.Recognition

/-!
# Tokens with other blanks between them

Blanks separate tokens and have no other part in what the tokens are: the texts of some tokens with
any blanks between them are cut into the same tokens again, which then have blanks on both sides.
-/

namespace ListQuery.Filter

open Text

/-- The texts of some tokens, each behind a gap of its own, and a gap behind the last one. -/
def respace : (gaps : List Text) → List Token → (last : Text) → Text
  | gap :: gaps, token :: tokens, last => gap ++ token.text ++ respace gaps tokens last
  | _, _, last => last

/-- One gap for each token and one more. All are blank, and those between two tokens are not
empty. -/
structure Spacing (gaps : List Text) (tokens : List Token) (last : Text) : Prop where
  length : gaps.length = tokens.length
  blank : ∀ gap ∈ gaps, Within isAsciiBlank gap
  between : ∀ gap ∈ gaps.tail, gap ≠ []
  blankLast : Within isAsciiBlank last

/-- Each token but the first has a blank before it, and each but the last has one behind it. -/
def Spaced (tokens : List Token) : Prop :=
  ∀ before token after, tokens = before ++ token :: after →
    (before ≠ [] → token.spacedBefore = true) ∧ (after ≠ [] → token.spacedAfter = true)

/-- Tokens are spaced if the first one is from the others, and these have blanks before them. -/
theorem Spaced.cons {token : Token} {tokens : List Token} (spaced : Spaced tokens)
    (first : tokens ≠ [] → token.spacedAfter = true)
    (others : ∀ other ∈ tokens, other.spacedBefore = true) : Spaced (token :: tokens) := by
  intro before other after same
  cases before with
  | nil =>
    cases same
    exact ⟨fun nonempty => absurd rfl nonempty, first⟩
  | cons _ before =>
    cases same
    exact ⟨fun _ => others other (by simp), (spaced before other after rfl).2⟩

/-- Behind a token that is not the last one a respaced text goes on with a blank. -/
theorem beginsBlank_respace {gaps : List Text} {tokens : List Token} {last : Text}
    (length : gaps.length = tokens.length) (blank : ∀ gap ∈ gaps, Within isAsciiBlank gap)
    (between : ∀ gap ∈ gaps, gap ≠ []) (more : tokens ≠ []) :
    beginsBlank (respace gaps tokens last) = true := by
  cases tokens with
  | nil => exact absurd rfl more
  | cons token tokens =>
    obtain ⟨gap, gaps, rfl⟩ := List.exists_cons_of_length_eq_add_one length
    obtain ⟨c, gap, rfl⟩ := List.exists_cons_of_ne_nil (between gap (by simp))
    exact (within_cons.1 (blank _ List.mem_cons_self)).1

/-- A token is not continued by a respaced text behind it. -/
theorem apart_respace {gaps : List Text} {tokens : List Token} {last : Text} (text : Text)
    (spacing : Spacing gaps tokens last) (between : ∀ gap ∈ gaps, gap ≠ []) :
    Apart text (respace gaps tokens last) := by
  cases tokens with
  | nil =>
    cases List.length_eq_zero_iff.1 spacing.length
    intro d _ c first
    have blank := spacing.blankLast c (List.mem_of_mem_head? first)
    exact Separates.not_merges (.inl blank)
  | cons token tokens =>
    exact apart_of_beginsBlank text
      (beginsBlank_respace spacing.length spacing.blank between (by simp))

/-- The texts of tokens that a text can have, with gaps around them, have these tokens again. -/
theorem exists_scans_respace {gaps : List Text} {tokens : List Token} {last : Text}
    (shapes : ∀ token ∈ tokens, Lexeme.Shape (some token.kind) token.text)
    (spacing : Spacing gaps tokens last) (position : Nat) :
    ∃ found, Scans position (respace gaps tokens last) found ∧
      found.map Token.label = tokens.map Token.label ∧ Spaced found ∧
      ((∀ gap ∈ gaps, gap ≠ []) → ∀ token ∈ found, token.spacedBefore = true) := by
  induction tokens generalizing gaps position with
  | nil =>
    cases List.length_eq_zero_iff.1 spacing.length
    refine ⟨[], .blanks spacing.blankLast, rfl, ?_, by simp⟩
    intro before token after same
    simp at same
  | cons token tokens ih =>
    obtain ⟨gap, gaps, rfl⟩ := List.exists_cons_of_length_eq_add_one spacing.length
    obtain ⟨shape, shapes⟩ := List.forall_mem_cons.1 shapes
    obtain ⟨blank, blanks⟩ := List.forall_mem_cons.1 spacing.blank
    have between : ∀ gap ∈ gaps, gap ≠ [] := spacing.between
    have later : Spacing gaps tokens last :=
      { length := by simpa using spacing.length
        blank := blanks
        between := fun gap member => between gap (List.mem_of_mem_tail member)
        blankLast := spacing.blankLast }
    have apart := apart_respace token.text later between
    obtain ⟨laid, next, kind, text, before, after, lay⟩ :=
      exists_token position blank shape (shape.not_continues apart)
    obtain ⟨found, scans, labels, spaced, spacedBefore⟩ := ih shapes later next
    have same : laid.label = token.label := by simp [Token.label, kind, text]
    refine ⟨laid :: found, lay scans, by simp [labels, same], ?_, fun nonempty => ?_⟩
    · refine spaced.cons (fun more => ?_) (spacedBefore between)
      have others : tokens ≠ [] := by
        rintro rfl
        simp at labels
        exact more labels
      rw [after]
      exact beginsBlank_respace later.length blanks between others
    · rw [List.forall_mem_cons] at nonempty ⊢
      exact ⟨by simp [before, nonempty.1], spacedBefore nonempty.2⟩

/-- The tokens of a text survive any choice of blanks between them: they are found again, with the
same kinds and texts, and with a blank on each side where another token is. -/
theorem tokenize_respace {raw last : Text} {tokens : List Token} {gaps : List Text}
    (cut : tokenize raw = .ok tokens) (spacing : Spacing gaps tokens last) :
    ∃ found, tokenize (respace gaps tokens last) = .ok found ∧
      found.map Token.label = tokens.map Token.label ∧ Spaced found := by
  have shapes : ∀ token ∈ tokens, Lexeme.Shape (some token.kind) token.text := by
    intro token member
    obtain ⟨-, -, -, -, shape, -⟩ := (tokenize_eq_ok_iff.1 cut).exists_around member
    exact shape
  obtain ⟨found, scans, labels, spaced, -⟩ := exists_scans_respace shapes spacing 0
  exact ⟨found, tokenize_eq_ok_iff.2 scans, labels, spaced⟩

/-- Tokens that touch one another are the same when blanks come between them. -/
theorem tokenize_respace_touching :
    ∃ tokens, tokenize "n>='x''y'Or" = .ok tokens ∧ Spacing [[], " ", "\n", " \t"] tokens " " ∧
      ∃ found, tokenize "n >=\n'x''y' \tOr " = .ok found ∧
        found.map Token.label = tokens.map Token.label ∧ Spaced found := by
  have cut : tokenize "n>='x''y'Or" = .ok
      [⟨.identifier, "n", 0, false, false⟩, ⟨.comparator .greaterOrEqual, ">=", 1, false, false⟩,
        ⟨.string, "'x''y'", 3, false, false⟩, ⟨.connective .or, "Or", 9, false, false⟩] := by
    decide +kernel
  have spacing : ∀ tokens : List Token, tokens.length = 4 →
      Spacing [[], " ", "\n", " \t"] tokens " " :=
    fun tokens length => ⟨length.symm, by decide, by decide, by decide⟩
  exact ⟨_, cut, spacing _ rfl, tokenize_respace cut (spacing _ rfl)⟩

end ListQuery.Filter
