import ListQuery.Proofs.Filter.Scan

/-!
# Texts side by side

Two texts that have tokens can be put one behind the other. Only the code points at the seam can
make a difference: unless they are of one word or number, of one string or of one comparator
(`Merges`), both texts keep their tokens, and blanks at the seam belong to the gap in front of what
follows (`Scans.lay`).
-/

namespace ListQuery.Filter

open Text

/-- Whether a blank comes last. -/
def endsBlank (text : Text) : Bool :=
  text.getLast?.any isAsciiBlank

/-- Whether a lexeme that ends in one code point may go on with another one. -/
def Merges (last next : CodePoint) : Prop :=
  isWordChar last = true ∧ (isWordChar next = true ∨ next = .scalar '.') ∨
    last = Quoted.quote ∧ next = Quoted.quote ∨
    (last = .scalar '<' ∨ last = .scalar '>') ∧ next = .scalar '='

/-- No lexeme reaches over the seam of two texts. -/
def Apart (text behind : Text) : Prop :=
  ∀ last ∈ text.getLast?, ∀ next ∈ behind.head?, ¬ Merges last next

/-! ## Seams -/

/-- Code points that no lexeme goes on with behind its last one: blanks and parentheses. -/
def Separates (c : CodePoint) : Prop :=
  isAsciiBlank c = true ∨ c = .scalar '(' ∨ c = .scalar ')'

/-- Nothing goes on with a blank or a parenthesis. -/
theorem Separates.not_merges {last next : CodePoint} (separates : Separates next) :
    ¬ Merges last next := by
  have outside : isWordChar next = false ∧ next ≠ .scalar '.' ∧ next ≠ Quoted.quote ∧
      next ≠ .scalar '=' := by
    rcases separates with blank | rfl | rfl
    · refine ⟨?_, ne_of_class blank (by decide), ne_of_class blank (by decide),
        ne_of_class blank (by decide)⟩
      rw [← Bool.not_eq_true]
      intro word
      simp [isAsciiBlank_of_isWordChar word] at blank
    · decide
    · decide
  rintro (⟨-, word | point⟩ | ⟨-, quote⟩ | ⟨-, equals⟩)
  · simp [outside.1] at word
  · exact outside.2.1 point
  · exact outside.2.2.1 quote
  · exact outside.2.2.2 equals

/-- A text is apart from what starts with a blank or a parenthesis. -/
theorem apart_cons {c : CodePoint} (text rest : Text) (separates : Separates c) :
    Apart text (c :: rest) := by
  intro last _ next first
  cases first
  exact separates.not_merges

/-- A text is apart from what begins with a blank. -/
theorem apart_of_beginsBlank {behind : Text} (text : Text) (begins : beginsBlank behind = true) :
    Apart text behind := by
  cases behind with
  | nil => cases begins
  | cons c behind => exact apart_cons text behind (.inl begins)

/-- A text is apart from nothing at all. -/
theorem apart_nil (text : Text) : Apart text [] := by
  simp [Apart]

/-- A lexeme ends in a code point that is no blank, and what continues the lexeme merges with
it. -/
theorem Lexeme.Shape.last {kind : Token.Kind} {text : Text}
    (shape : Lexeme.Shape (some kind) text) :
    ∃ c, text.getLast? = some c ∧ isAsciiBlank c = false ∧
      ∀ next, Lexeme.Continues ⟨some kind, text⟩ next → Merges c next := by
  have ofWord : ∀ {word : Text}, word ≠ [] → Within isWordChar word →
      ∃ c, word.getLast? = some c ∧ isWordChar c = true :=
    fun nonempty inside => ⟨_, List.getLast?_eq_some_getLast nonempty,
      inside _ (List.getLast_mem nonempty)⟩
  have ofDigits : ∀ {digits : Text}, DigitRun digits →
      ∃ c, digits.getLast? = some c ∧ isWordChar c = true :=
    fun run => ofWord run.nonempty fun c member => isWordChar_of_isAsciiDigit (run.digits c member)
  generalize isKind : some kind = given at shape
  cases shape with
  | blanks nonempty blank => cases isKind
  | quoted value =>
    refine ⟨Quoted.quote, by rw [Quoted.encode, ← List.cons_append, List.getLast?_concat], rfl, ?_⟩
    exact fun next continues => .inr (.inl ⟨rfl, continues.2⟩)
  | doubleQuoted plain =>
    refine ⟨.scalar '\x22', by rw [← List.cons_append, List.getLast?_concat], rfl, ?_⟩
    exact fun next continues => absurd continues.1 (by simp [Quoted.quote])
  | whole run =>
    obtain ⟨c, last, word⟩ := ofDigits run
    exact ⟨c, last, isAsciiBlank_of_isWordChar word, fun next continues => .inl ⟨word, continues⟩⟩
  | fractional run fractionRun =>
    obtain ⟨c, last, word⟩ := ofDigits fractionRun
    refine ⟨c, by simp [List.getLast?_append, List.getLast?_cons, last],
      isAsciiBlank_of_isWordChar word, fun next continues => .inl ⟨word, continues⟩⟩
  | identifier isWord unreserved =>
    obtain ⟨c, last, word⟩ := ofWord isWord.nonempty isWord.word
    exact ⟨c, last, isAsciiBlank_of_isWordChar word,
      fun next continues => .inl ⟨word, .inl continues⟩⟩
  | connective isWord keyword =>
    obtain ⟨c, last, word⟩ := ofWord isWord.nonempty isWord.word
    exact ⟨c, last, isAsciiBlank_of_isWordChar word,
      fun next continues => .inl ⟨word, .inl continues⟩⟩
  | comparator comparator =>
    cases comparator with
    | less => exact ⟨_, rfl, rfl, fun next continues => .inr (.inr ⟨.inl rfl, continues⟩)⟩
    | greater => exact ⟨_, rfl, rfl, fun next continues => .inr (.inr ⟨.inr rfl, continues⟩)⟩
    | equal | notEqual | greaterOrEqual | lessOrEqual => exact ⟨_, rfl, rfl, fun _ => False.elim⟩
  | openGroup => exact ⟨_, rfl, rfl, fun _ => False.elim⟩
  | closeGroup => exact ⟨_, rfl, rfl, fun _ => False.elim⟩

/-- A token is not continued by a text that it is apart from. -/
theorem Lexeme.Shape.not_continues {kind : Token.Kind} {text behind : Text}
    (shape : Lexeme.Shape (some kind) text) (apart : Apart text behind) :
    ∀ c ∈ behind.head?, ¬ Lexeme.Continues ⟨some kind, text⟩ c := by
  obtain ⟨last, isLast, -, merges⟩ := shape.last
  exact fun c first continues => apart last isLast c first (merges c continues)

/-- A text that does not end in a blank has no gap at its end. -/
theorem eq_nil_of_suffix {gap text : Text} (blank : Within isAsciiBlank gap)
    (isSuffix : gap <:+ text) (ends : endsBlank text = false) : gap = [] := by
  obtain ⟨body, rfl⟩ := isSuffix
  by_contra nonempty
  have last := List.getLast?_eq_some_getLast nonempty
  have isBlank := blank _ (List.getLast_mem nonempty)
  simp [endsBlank, List.getLast?_append, last, isBlank] at ends

/-! ## Laying a text in front of another one -/

/-- A token again, somewhere else and with no fewer blanks beside it. -/
structure Token.Kept (token laid : Token) : Prop where
  kind : laid.kind = token.kind
  text : laid.text = token.text
  spacedBefore : token.spacedBefore = true → laid.spacedBefore = true
  spacedAfter : token.spacedAfter = true → laid.spacedAfter = true

/-- A text that is apart from what follows ends in a text that is. -/
theorem Apart.of_append {front text behind : Text} (apart : Apart (front ++ text) behind) :
    Apart text behind := by
  intro last isLast
  refine apart last ?_
  rw [Option.mem_def] at isLast ⊢
  rw [List.getLast?_append, isLast]
  rfl

/-- A text that begins with a blank does so in front of any other one. -/
theorem beginsBlank_append_right {text : Text} (behind : Text) (begins : beginsBlank text = true) :
    beginsBlank (text ++ behind) = true := by
  cases text with
  | nil => cases begins
  | cons c text => exact begins

/-- A text that has tokens keeps them behind a gap and in front of a text that it is apart from.
Blanks at its end become a part of the gap that follows. -/
theorem Scans.lay {position : Nat} {text : Text} {tokens : List Token}
    (scans : Scans position text tokens) (start : Nat) {front behind : Text}
    (blank : Within isAsciiBlank front) (apart : Apart text behind) :
    ∃ gap laid next, Within isAsciiBlank gap ∧ gap <:+ front ++ text ∧
      List.Forall₂ Token.Kept tokens laid ∧ ∀ {rest}, Scans next (gap ++ behind) rest →
        Scans start (front ++ text ++ behind) (laid ++ rest) := by
  induction scans generalizing start front with
  | @blanks position text inside =>
    -- These blanks stand in front of the first token of what follows.
    have gap := within_append.2 ⟨blank, inside⟩
    exact ⟨front ++ text, [], start, gap, List.suffix_refl _, .nil, id⟩
  | @token position space body after kind later inside shape boundary scansAfter ih =>
    have ends : ∀ c ∈ (after ++ behind).head?, ¬ Lexeme.Continues ⟨some kind, body⟩ c := by
      -- Only the last token of the text meets the seam.
      cases after with
      | nil =>
        rw [List.append_nil] at apart
        exact shape.not_continues apart.of_append
      | cons c after => exact boundary
    have gap := within_append.2 ⟨blank, inside⟩
    obtain ⟨trailing, laid, next, blankTrailing, isSuffix, kept, lay⟩ :=
      ih (start + (front ++ space).length + body.length) within_nil apart.of_append
    let token : Token := ⟨kind, body, start + (front ++ space).length, front ++ space ≠ [],
      beginsBlank (after ++ behind)⟩
    refine ⟨trailing, token :: laid, next, blankTrailing, ?_, .cons ?_ kept, fun scans => ?_⟩
    · rw [← List.append_assoc]
      exact isSuffix.trans (List.suffix_append _ _)
    · refine ⟨rfl, rfl, fun spaced => ?_, beginsBlank_append_right behind⟩
      have nonempty : space ≠ [] := of_decide_eq_true spaced
      simp [token, nonempty]
    · have whole := Scans.token gap shape ends (lay scans)
      simpa [token] using whole

end ListQuery.Filter
