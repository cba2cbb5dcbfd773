import ListQuery.Filter.Lexer
import ListQuery.Proofs.Except
import ListQuery.Proofs.Filter.Grammar
import ListQuery.Proofs.Text.Case
import ListQuery.Proofs.Text.Quoted

/-!
# Which lexemes there are

`Lexeme.Shape` lists the texts that a lexeme of each kind can have, and `Lexeme.Continues` the
code points that would make a lexeme longer. Cutting a text only ever gives lexemes of these
shapes and loses nothing (`next?_sound`), and a lexeme that was written down is cut off again
as it was written if what follows does not continue it (`next?_append`).
-/

namespace ListQuery.Filter

open Text

namespace Lexeme

/-- The texts that a lexeme of each kind can have. -/
inductive Shape : Option Token.Kind → Text → Prop where
  | blanks {text : Text} (nonempty : text ≠ []) (blank : Within isAsciiBlank text) :
      Shape none text
  | quoted (value : Text) : Shape (some .string) (Quoted.encode value)
  | doubleQuoted {body : Text} (plain : Within (· ≠ '\x22') body) :
      Shape (some .string) ('\x22' :: (body ++ [.scalar '\x22']))
  | whole {digits : Text} (run : DigitRun digits) : Shape (some .number) digits
  | fractional {whole fraction : Text} (run : DigitRun whole) (fractionRun : DigitRun fraction) :
      Shape (some .number) (whole ++ CodePoint.scalar '.' :: fraction)
  | identifier {text : Text} (word : IsWord text)
      (unreserved : ∀ connective, ¬ IsKeyword connective text) : Shape (some .identifier) text
  | connective {text : Text} {connective : Connective} (word : IsWord text)
      (keyword : IsKeyword connective text) : Shape (some (.connective connective)) text
  | comparator (comparator : Comparator) :
      Shape (some (.comparator comparator)) comparator.symbol
  | openGroup : Shape (some .openGroup) ['(']
  | closeGroup : Shape (some .closeGroup) [')']

/-- Whether a code point directly behind a lexeme would be taken for a part of it. -/
def Continues (lexeme : Lexeme) (c : CodePoint) : Prop :=
  match lexeme.kind with
  | none => isAsciiBlank c = true
  | some .string => lexeme.text.head? = some Quoted.quote ∧ c = Quoted.quote
  | some .number => isWordChar c = true ∨ c = '.'
  | some .identifier | some (.connective _) => isWordChar c = true
  | some (.comparator .less) | some (.comparator .greater) => c = '='
  | _ => False

/-! ## Strings -/

/-- A doubled text is closed by the quote behind it, unless that quote is doubled too. -/
theorem closeQuoted?_double {rest : Text} (value : Text)
    (boundary : rest.head? ≠ some Quoted.quote) :
    closeQuoted? (Quoted.double value ++ Quoted.quote :: rest) =
      some (Quoted.double value ++ [Quoted.quote], rest) := by
  induction value with
  | nil =>
    cases rest with
    | nil => simp [closeQuoted?]
    | cons c rest =>
      have plain : c ≠ Quoted.quote := by simpa using boundary
      simp [closeQuoted?, plain]
  | cons c value ih =>
    by_cases isQuote : c = Quoted.quote
    · subst isQuote
      simp [closeQuoted?, ih]
    · rw [Quoted.double_of_ne isQuote]
      obtain ⟨d, after, shape⟩ :
          ∃ d after, Quoted.double value ++ Quoted.quote :: rest = d :: after :=
        List.exists_cons_of_ne_nil (by simp)
      rw [List.cons_append, shape, closeQuoted?, if_neg isQuote, ← shape, ih]
      rfl

/-- What closes a single-quoted string is a doubled text and a quote. Another quote follows only
if no string could be closed behind that one. -/
theorem closeQuoted?_sound {text body rest : Text}
    (closed : closeQuoted? text = some (body, rest)) :
    text = body ++ rest ∧ (∃ value, body = Quoted.double value ++ [Quoted.quote]) ∧
      (rest.head? = some Quoted.quote → closeQuoted? rest.tail = none) := by
  fun_induction closeQuoted? text generalizing body rest with
  | case1 => simp at closed
  | case2 =>
    simp at closed
    obtain ⟨rfl, rfl⟩ := closed
    exact ⟨rfl, ⟨[], rfl⟩, by simp⟩
  | case3 => simp at closed
  | case4 after inner left isClosed ih =>
    simp at closed
    obtain ⟨rfl, rfl⟩ := closed
    obtain ⟨same, ⟨value, isInner⟩, boundary⟩ := ih isClosed
    exact ⟨by simp [same], ⟨Quoted.quote :: value, by simp [isInner]⟩, boundary⟩
  | case5 after unclosed =>
    simp at closed
    obtain ⟨rfl, rfl⟩ := closed
    exact ⟨rfl, ⟨[], rfl⟩, fun _ => unclosed⟩
  | case6 d after plain =>
    simp at closed
    obtain ⟨rfl, rfl⟩ := closed
    exact ⟨rfl, ⟨[], rfl⟩, by simp [plain]⟩
  | case7 c d after plain ih =>
    obtain ⟨⟨inner, left⟩, isClosed, same⟩ := Option.map_eq_some_iff.1 closed
    simp at same
    obtain ⟨rfl, rfl⟩ := same
    obtain ⟨same, ⟨value, isInner⟩, boundary⟩ := ih isClosed
    refine ⟨by simp [same], ⟨c :: value, ?_⟩, boundary⟩
    rw [Quoted.double_of_ne plain, isInner]
    rfl

/-- A text without double quotes is closed by the double quote behind it. -/
theorem closeDoubleQuoted?_append {body : Text} (rest : Text)
    (plain : Within (· ≠ '\x22') body) :
    closeDoubleQuoted? (body ++ CodePoint.scalar '\x22' :: rest) =
      some (body ++ [.scalar '\x22'], rest) := by
  induction body with
  | nil => simp [closeDoubleQuoted?]
  | cons c body ih =>
    obtain ⟨other, plain⟩ := within_cons.1 plain
    simp at other
    simp [closeDoubleQuoted?, other, ih plain]

/-- What closes a double-quoted string is a text without double quotes and one of them. -/
theorem closeDoubleQuoted?_sound {text body rest : Text}
    (closed : closeDoubleQuoted? text = some (body, rest)) :
    text = body ++ rest ∧
      ∃ inner, body = inner ++ [.scalar '\x22'] ∧ Within (· ≠ '\x22') inner := by
  fun_induction closeDoubleQuoted? text generalizing body rest with
  | case1 => simp at closed
  | case2 =>
    simp at closed
    obtain ⟨rfl, rfl⟩ := closed
    exact ⟨rfl, [], rfl, within_nil⟩
  | case3 c after other ih =>
    obtain ⟨⟨part, left⟩, isClosed, same⟩ := Option.map_eq_some_iff.1 closed
    simp at same
    obtain ⟨rfl, rfl⟩ := same
    obtain ⟨same, inner, rfl, plain⟩ := ih isClosed
    exact ⟨by simp [same], c :: inner, rfl, within_cons.2 ⟨by simpa using other, plain⟩⟩

/-! ## Numbers and words -/

/-- Nothing but a point starts a fraction. -/
theorem fraction?_eq_none {text : Text} (boundary : text.head? ≠ some (.scalar '.')) :
    fraction? text = none := by
  unfold fraction?
  split
  · simp at boundary
  · rfl

/-- Whether a word character comes first is a matter of the first code point. -/
theorem startsWord_eq_false_iff {text : Text} :
    startsWord text = false ↔ StopsAt isWordChar text := by
  cases text <;> simp [startsWord]

/-- Where a word ends, so does a run of digits. -/
theorem stopsAt_isAsciiDigit {text : Text} (boundary : StopsAt isWordChar text) :
    StopsAt isAsciiDigit text := by
  intro c first
  have outside := boundary c first
  rw [← Bool.not_eq_true] at outside ⊢
  exact fun digit => outside (isWordChar_of_isAsciiDigit digit)

/-- A run of digits is a number if neither a word character nor a point follows it. -/
theorem number?_whole {digits rest : Text} (run : DigitRun digits)
    (boundary : StopsAt isWordChar rest) (pointless : rest.head? ≠ some (.scalar '.')) :
    number? (digits ++ rest) = some (digits, rest) := by
  have ends := stopsAt_isAsciiDigit boundary
  simp [number?, takeWhile_run run.digits ends, dropWhile_run run.digits ends, run.nonempty,
    fraction?_eq_none pointless, startsWord_eq_false_iff.2 boundary]

/-- Two runs of digits around a point are a number if no word character follows them. -/
theorem number?_fractional {whole fraction rest : Text} (run : DigitRun whole)
    (fractionRun : DigitRun fraction) (boundary : StopsAt isWordChar rest) :
    number? (whole ++ CodePoint.scalar '.' :: (fraction ++ rest)) =
      some (whole ++ CodePoint.scalar '.' :: fraction, rest) := by
  have point : StopsAt isAsciiDigit (CodePoint.scalar '.' :: (fraction ++ rest)) :=
    stopsAt_cons.2 (by decide)
  have ends := stopsAt_isAsciiDigit boundary
  simp [number?, takeWhile_run run.digits point, dropWhile_run run.digits point, run.nonempty,
    fraction?, takeWhile_run fractionRun.digits ends, dropWhile_run fractionRun.digits ends,
    fractionRun.nonempty, startsWord_eq_false_iff.2 boundary]

/-- A run of digits that no word character follows starts a number. -/
theorem number?_ne_none {digits rest : Text} (run : DigitRun digits)
    (boundary : StopsAt isWordChar rest) : number? (digits ++ rest) ≠ none := by
  have ends := stopsAt_isAsciiDigit boundary
  simp only [number?, takeWhile_run run.digits ends, dropWhile_run run.digits ends,
    startsWord_eq_false_iff.2 boundary, if_neg run.nonempty]
  cases fraction? rest <;> simp

/-- A word that does not consist of digits has no number at its start. -/
theorem number?_word {word : Text} (rest : Text) (isWord : IsWord word) :
    number? (word ++ rest) = none := by
  obtain ⟨c, after, split, noDigit⟩ := exists_outside isWord.notDigits
  have isWordC : isWordChar c = true :=
    isWord.word c ((List.dropWhile_suffix isAsciiDigit).subset (split ▸ List.mem_cons_self))
  have parts : word ++ rest = word.takeWhile isAsciiDigit ++ c :: (after ++ rest) := by
    rw [← List.cons_append, ← split, ← List.append_assoc, List.takeWhile_append_dropWhile]
  have ends : StopsAt isAsciiDigit (c :: (after ++ rest)) := stopsAt_cons.2 noDigit
  have noPoint : (c :: (after ++ rest)).head? ≠ some (.scalar '.') := by
    simpa using ne_of_class isWordC (d := .scalar '.') (by decide)
  rw [parts, number?, takeWhile_run (within_takeWhile word) ends,
    dropWhile_run (within_takeWhile word) ends, fraction?_eq_none noPoint]
  simp [startsWord, isWordC]

/-- A fraction is a point and a run of digits, and no word character follows it. -/
theorem fraction?_sound {text body rest : Text} (taken : fraction? text = some (body, rest)) :
    text = body ++ rest ∧ (∃ digits, body = CodePoint.scalar '.' :: digits ∧ DigitRun digits) ∧
      StopsAt isWordChar rest := by
  unfold fraction? at taken
  split at taken
  · rename_i after
    simp at taken
    obtain ⟨⟨nonempty, boundary⟩, rfl, rfl⟩ := taken
    refine ⟨by simp, ⟨_, rfl, by simpa using nonempty, within_takeWhile after⟩, ?_⟩
    exact startsWord_eq_false_iff.1 boundary
  · simp at taken

/-- What is taken for a number has the shape of one, and no word character follows it. -/
theorem number?_sound {text body rest : Text} (taken : number? text = some (body, rest)) :
    text = body ++ rest ∧ Shape (some .number) body ∧ StopsAt isWordChar rest := by
  have parts := @List.takeWhile_append_dropWhile _ isAsciiDigit text
  unfold number? at taken
  simp only at taken
  split at taken
  · simp at taken
  · rename_i nonempty
    have run : DigitRun (text.takeWhile isAsciiDigit) := ⟨nonempty, within_takeWhile text⟩
    split at taken
    · rename_i fraction left isFraction
      simp at taken
      obtain ⟨rfl, rfl⟩ := taken
      obtain ⟨same, ⟨digits, rfl, fractionRun⟩, boundary⟩ := fraction?_sound isFraction
      refine ⟨?_, .fractional run fractionRun, boundary⟩
      rw [List.append_assoc, ← same, parts]
    · split at taken
      · simp at taken
      · rename_i boundary
        simp at taken
        obtain ⟨rfl, rfl⟩ := taken
        exact ⟨parts.symm, .whole run, startsWord_eq_false_iff.1 (by simpa using boundary)⟩

/-- A word is a connective exactly if it is the keyword of it in some letter case. -/
theorem ofKeyword?_eq_some_iff {text : Text} {connective : Connective}
    (word : Within isWordChar text) :
    Connective.ofKeyword? text = some connective ↔ IsKeyword connective text := by
  simp only [Connective.ofKeyword?, upper_of_word word, IsKeyword]
  cases connective <;> grind [Connective.keyword]

/-- A word that is not the keyword of a connective is no connective. -/
theorem ofKeyword?_eq_none_iff {text : Text} (word : Within isWordChar text) :
    Connective.ofKeyword? text = none ↔ ∀ connective, ¬ IsKeyword connective text := by
  rw [Option.eq_none_iff_forall_ne_some]
  exact forall_congr' fun _ => not_congr (ofKeyword?_eq_some_iff word)

/-- A word has the shape that belongs to its kind. -/
theorem shape_wordKind {text : Text} (word : IsWord text) : Shape (some (wordKind text)) text := by
  unfold wordKind
  split
  · exact .connective word ((ofKeyword?_eq_some_iff word.word).1 ‹_›)
  · exact .identifier word ((ofKeyword?_eq_none_iff word.word).1 ‹_›)

/-! ## Comparators -/

/-- What is taken for a comparator is its symbol, which an equals sign does not make longer. -/
theorem comparator?_sound {text rest : Text} {comparator : Comparator}
    (taken : comparator? text = some (comparator, rest)) :
    text = comparator.symbol ++ rest ∧
      (comparator = .less ∨ comparator = .greater → rest.head? ≠ some (.scalar '=')) := by
  unfold comparator? at taken
  split at taken <;> simp at taken <;> obtain ⟨rfl, rfl⟩ := taken <;>
    refine ⟨rfl, ?_⟩ <;> simp [List.head?_eq_some_iff]
  all_goals assumption

/-- The symbol of a comparator is taken for it unless an equals sign would make it longer. -/
theorem comparator?_symbol {comparator : Comparator} {rest : Text}
    (boundary : comparator = .less ∨ comparator = .greater →
      rest.head? ≠ some (.scalar '=')) :
    comparator? (comparator.symbol ++ rest) = some (comparator, rest) := by
  cases rest with
  | nil => cases comparator <;> rfl
  | cons c rest =>
    cases comparator <;> simp [Comparator.symbol, comparator?] <;> simp at boundary
    all_goals split <;> simp_all

/-- The first code point of a comparator starts no other lexeme. -/
theorem next?_symbol {comparator : Comparator} {rest : Text}
    (boundary : comparator = .less ∨ comparator = .greater →
      rest.head? ≠ some (.scalar '=')) :
    next? (comparator.symbol ++ rest) =
      some (⟨some (.comparator comparator), comparator.symbol⟩, rest) := by
  have taken := comparator?_symbol boundary
  obtain ⟨c, after, shape⟩ : ∃ c after, comparator.symbol = c :: after := by
    cases comparator <;> exact ⟨_, _, rfl⟩
  have first : isAsciiBlank c = false ∧ c ≠ Quoted.quote ∧ c ≠ .scalar '\x22' ∧
      isWordChar c = false ∧ c ≠ .scalar '(' ∧ c ≠ .scalar ')' := by
    cases comparator <;> cases shape <;> decide
  rw [shape, List.cons_append] at taken ⊢
  simp [next?, first, taken, shape]

/-! ## Single lexemes -/

/-- A word character starts a number or else a word. -/
theorem next?_cons_word {c : CodePoint} {rest : Text} (word : isWordChar c = true) :
    next? (c :: rest) =
      match number? (c :: rest) with
      | some (number, rest) => some (⟨some .number, number⟩, rest)
      | none =>
        some (⟨some (wordKind (c :: rest.takeWhile isWordChar)),
          c :: rest.takeWhile isWordChar⟩, rest.dropWhile isWordChar) := by
  have noBlank := isAsciiBlank_of_isWordChar word
  have noQuote : c ≠ Quoted.quote := ne_of_class word (by decide)
  have noDoubleQuote : c ≠ .scalar '\x22' := ne_of_class word (by decide)
  simp only [next?, noBlank, noQuote, noDoubleQuote, word, if_true, if_false]
  rfl

/-- A written number is the next lexeme if the reader of numbers takes it. -/
theorem next?_number {text rest : Text} (digits : ∃ c ∈ text.head?, isAsciiDigit c = true)
    (taken : number? (text ++ rest) = some (text, rest)) :
    next? (text ++ rest) = some (⟨some .number, text⟩, rest) := by
  cases text with
  | nil => simp at digits
  | cons c text =>
    simp at digits
    rw [List.cons_append] at taken ⊢
    rw [next?_cons_word (isWordChar_of_isAsciiDigit digits), taken]

/-- A written word is the next lexeme if no word character follows it. -/
theorem next?_word {word rest : Text} (isWord : IsWord word)
    (boundary : StopsAt isWordChar rest) :
    next? (word ++ rest) = some (⟨some (wordKind word), word⟩, rest) := by
  have noNumber := number?_word rest isWord
  cases word with
  | nil => exact absurd rfl isWord.nonempty
  | cons c word =>
    obtain ⟨first, inside⟩ := within_cons.1 isWord.word
    rw [List.cons_append] at noNumber ⊢
    rw [next?_cons_word first, noNumber, takeWhile_run inside boundary,
      dropWhile_run inside boundary]

/-- A written lexeme is the next one if what follows does not continue it. -/
theorem next?_append {kind : Option Token.Kind} {text rest : Text} (shape : Shape kind text)
    (boundary : ∀ c ∈ rest.head?, ¬ Continues ⟨kind, text⟩ c) :
    next? (text ++ rest) = some (⟨kind, text⟩, rest) := by
  cases shape with
  | blanks nonempty blank =>
    cases text with
    | nil => exact absurd rfl nonempty
    | cons c text =>
      obtain ⟨first, inside⟩ := within_cons.1 blank
      have ends : StopsAt isAsciiBlank rest := by simpa [StopsAt, Continues] using boundary
      simp [next?, first, takeWhile_run inside ends, dropWhile_run inside ends]
  | quoted value =>
    have ends : rest.head? ≠ some Quoted.quote := by
      intro first
      exact boundary _ first ⟨rfl, rfl⟩
    have closed := closeQuoted?_double value ends
    have noBlank : isAsciiBlank Quoted.quote = false := by decide
    simp [Quoted.encode, next?, noBlank, closed]
  | doubleQuoted plain =>
    have noBlank : isAsciiBlank (.scalar '\x22') = false := by decide
    have noQuote : CodePoint.scalar '\x22' ≠ Quoted.quote := by decide
    simp [next?, noBlank, noQuote, closeDoubleQuoted?_append rest plain]
  | whole run =>
    have ends : StopsAt isWordChar rest := by
      intro c first
      simpa using (not_or.1 (boundary c first)).1
    have pointless : rest.head? ≠ some (.scalar '.') := by
      intro first
      exact boundary _ first (.inr rfl)
    exact next?_number (by simpa using run.head []) (number?_whole run ends pointless)
  | @fractional whole fraction run fractionRun =>
    have ends : StopsAt isWordChar rest := by
      intro c first
      simpa using (not_or.1 (boundary c first)).1
    refine next?_number (run.head _) ?_
    simpa using number?_fractional run fractionRun ends
  | identifier word unreserved =>
    have ends : StopsAt isWordChar rest := by simpa [StopsAt, Continues] using boundary
    rw [next?_word word ends, wordKind, (ofKeyword?_eq_none_iff word.word).2 unreserved]
  | connective word keyword =>
    have ends : StopsAt isWordChar rest := by simpa [StopsAt, Continues] using boundary
    rw [next?_word word ends, wordKind, (ofKeyword?_eq_some_iff word.word).2 keyword]
  | comparator comparator =>
    apply next?_symbol
    intro orders first
    rcases orders with rfl | rfl <;> exact boundary _ first rfl
  | openGroup => rfl
  | closeGroup => rfl

/-- Nothing starts with a point. -/
theorem next?_point (rest : Text) : next? (CodePoint.scalar '.' :: rest) = none := rfl

/-- A lexeme that is cut off a text: it has the shape of its kind, and where another lexeme
follows, that one does not continue it. -/
structure Taken (text : Text) (lexeme : Lexeme) (rest : Text) : Prop where
  parts : text = lexeme.text ++ rest
  shape : Shape lexeme.kind lexeme.text
  boundary : next? rest ≠ none → ∀ c ∈ rest.head?, ¬ Continues lexeme c

/-- A lexeme behind which a class of code points stops is not continued by that class. -/
theorem Taken.of_stopsAt {text rest : Text} {lexeme : Lexeme} {holds : CodePoint → Bool}
    (parts : text = lexeme.text ++ rest) (shape : Shape lexeme.kind lexeme.text)
    (boundary : StopsAt holds rest) (continued : ∀ c, Continues lexeme c → holds c = true) :
    Taken text lexeme rest where
  parts := parts
  shape := shape
  boundary := by
    intro _ c first continues
    have outside := boundary c first
    simp [continued c continues] at outside

/-- A number that no word character follows is not continued: a point starts no lexeme. -/
theorem Taken.number {text number rest : Text} (parts : text = number ++ rest)
    (shape : Shape (some .number) number) (boundary : StopsAt isWordChar rest) :
    Taken text ⟨some .number, number⟩ rest where
  parts := parts
  shape := shape
  boundary := by
    rintro lexes c first (word | rfl)
    · have outside := boundary c first
      simp [word] at outside
    · obtain ⟨after, rfl⟩ := List.head?_eq_some_iff.1 first
      exact lexes (next?_point after)

/-- A run of blanks is cut off to its end. -/
theorem Taken.blanks {c : CodePoint} (after : Text) (blank : isAsciiBlank c = true) :
    Taken (c :: after) ⟨none, c :: after.takeWhile isAsciiBlank⟩
      (after.dropWhile isAsciiBlank) := by
  refine .of_stopsAt (by simp) (.blanks (by simp) ?_) (stopsAt_dropWhile after) fun _ => id
  exact within_cons.2 ⟨blank, within_takeWhile after⟩

/-- A single-quoted string that is closed is cut off. A quote behind it could only start another
string, which is never closed. -/
theorem Taken.quoted {after body rest : Text}
    (closed : closeQuoted? after = some (body, rest)) :
    Taken (Quoted.quote :: after) ⟨some .string, Quoted.quote :: body⟩ rest := by
  obtain ⟨rfl, ⟨value, rfl⟩, boundary⟩ := closeQuoted?_sound closed
  refine ⟨rfl, .quoted value, ?_⟩
  rintro lexes c first ⟨-, rfl⟩
  obtain ⟨later, rfl⟩ := List.head?_eq_some_iff.1 first
  have noBlank : isAsciiBlank Quoted.quote = false := by decide
  simp [next?, noBlank] at lexes
  exact lexes (boundary rfl)

/-- A double-quoted string that is closed is cut off. -/
theorem Taken.doubleQuoted {after body rest : Text}
    (closed : closeDoubleQuoted? after = some (body, rest)) :
    Taken ('\x22' :: after) ⟨some .string, '\x22' :: body⟩ rest := by
  obtain ⟨rfl, inner, rfl, plain⟩ := closeDoubleQuoted?_sound closed
  refine ⟨rfl, .doubleQuoted plain, ?_⟩
  rintro - c - ⟨isQuote, -⟩
  simp [Quoted.quote] at isQuote

/-- A word is cut off to its end if no number stands there. -/
theorem Taken.word {c : CodePoint} {after : Text} (first : isWordChar c = true)
    (noNumber : number? (c :: after) = none) :
    Taken (c :: after)
      ⟨some (wordKind (c :: after.takeWhile isWordChar)), c :: after.takeWhile isWordChar⟩
      (after.dropWhile isWordChar) := by
  have word : IsWord (c :: after.takeWhile isWordChar) := by
    refine ⟨by simp, within_cons.2 ⟨first, within_takeWhile after⟩, fun digits => ?_⟩
    have number := number?_ne_none ⟨by simp, digits⟩ (stopsAt_dropWhile after)
    rw [List.cons_append, List.takeWhile_append_dropWhile] at number
    exact number noNumber
  apply Taken.of_stopsAt (by simp) (shape_wordKind word) (stopsAt_dropWhile after)
  intro d continues
  unfold wordKind at continues
  split at continues <;> exact continues

/-- The symbol of a comparator is cut off, of two that fit the longer one. -/
theorem Taken.comparator {text rest : Text} {comparator : Comparator}
    (taken : comparator? text = some (comparator, rest)) :
    Taken text ⟨some (.comparator comparator), comparator.symbol⟩ rest := by
  obtain ⟨parts, boundary⟩ := comparator?_sound taken
  refine ⟨parts, .comparator comparator, ?_⟩
  intro _ d first continues
  cases comparator <;> simp [Continues] at continues
  all_goals
    subst continues
    exact boundary (by simp) first

/-- The next lexeme is cut off the text. -/
theorem next?_sound {text rest : Text} {lexeme : Lexeme}
    (taken : next? text = some (lexeme, rest)) : Taken text lexeme rest := by
  unfold next? at taken
  split at taken
  · simp at taken
  rename_i c after
  split at taken
  · rename_i blank
    cases taken
    exact .blanks after blank
  split at taken
  · rename_i isQuote
    obtain ⟨⟨body, left⟩, closed, same⟩ := Option.map_eq_some_iff.1 taken
    subst isQuote
    cases same
    exact .quoted closed
  split at taken
  · rename_i isDoubleQuote
    obtain ⟨⟨body, left⟩, closed, same⟩ := Option.map_eq_some_iff.1 taken
    subst isDoubleQuote
    cases same
    exact .doubleQuoted closed
  split at taken
  · rename_i first
    split at taken
    · rename_i number left isNumber
      cases taken
      obtain ⟨parts, shape, boundary⟩ := number?_sound isNumber
      exact .number parts shape boundary
    · rename_i noNumber
      cases taken
      exact .word first noNumber
  split at taken
  · rename_i isOpen
    subst isOpen
    cases taken
    exact ⟨rfl, .openGroup, fun _ _ _ => id⟩
  split at taken
  · rename_i isClose
    subst isClose
    cases taken
    exact ⟨rfl, .closeGroup, fun _ _ _ => id⟩
  · obtain ⟨⟨comparator, left⟩, isComparator, same⟩ := Option.map_eq_some_iff.1 taken
    cases same
    exact .comparator isComparator

/-! ## Whole texts -/

@[simp] theorem ofText_nil : ofText [] = .ok [] := by
  simp [ofText]

/-- A text with lexemes is empty, or its first lexeme is cut off and the rest has the others. -/
theorem ofText_eq_ok_iff {text : Text} {lexemes : List Lexeme} :
    ofText text = .ok lexemes ↔ text = [] ∧ lexemes = [] ∨
      ∃ lexeme rest later, next? text = some (lexeme, rest) ∧ ofText rest = .ok later ∧
        lexemes = lexeme :: later := by
  by_cases empty : text = []
  · subst empty
    simp [next?, eq_comm]
  · rw [ofText, if_neg empty]
    split
    · simp_all
    · rename_i lexeme rest taken
      rw [map_eq_ok_iff]
      constructor
      · rintro ⟨later, cut, rfl⟩
        exact .inr ⟨lexeme, rest, later, taken, cut, rfl⟩
      · rintro (⟨isEmpty, -⟩ | ⟨first, left, later, takenFirst, cut, rfl⟩)
        · exact absurd isEmpty empty
        · cases taken.symm.trans takenFirst
          exact ⟨later, cut, rfl⟩

/-- A lexeme and those of the text behind it are the lexemes of the whole text. -/
theorem ofText_cons {text rest : Text} {lexeme : Lexeme} {later : List Lexeme}
    (taken : next? text = some (lexeme, rest)) (cut : ofText rest = .ok later) :
    ofText text = .ok (lexeme :: later) :=
  ofText_eq_ok_iff.2 (.inr ⟨lexeme, rest, later, taken, cut, rfl⟩)

end Lexeme

end ListQuery.Filter
