import ListQuery.Filter.Token
import ListQuery.Text.Blank
import ListQuery.Text.Digit
import ListQuery.Text.Quoted

/-!
# Filter lexemes

The smallest parts of a filter: tokens and the runs of ASCII blanks between them. `Lexeme.next?`
takes the longest lexeme of the first class that fits at the start of a text. It is never empty,
which is what makes cutting a text into lexemes end.
-/

namespace ListQuery.Filter

open Text

/-- A run of blanks, or a token with its kind. -/
structure Lexeme where
  kind : Option Token.Kind
  text : Text
deriving Repr, DecidableEq

namespace Lexeme

/-- The text up to the quote that closes a single-quoted string whose opening quote has been
read, and the rest. A doubled quote stays inside the string if another quote closes it later;
otherwise its first half closes the string. -/
def closeQuoted? : Text → Option (Text × Text)
  | [] => none
  | [c] => if c = Quoted.quote then some ([c], []) else none
  | c :: d :: rest =>
    if c = Quoted.quote then
      if d = Quoted.quote then
        match closeQuoted? rest with
        | some (body, rest) => some (c :: d :: body, rest)
        | none => some ([c], d :: rest)
      else some ([c], d :: rest)
    else (closeQuoted? (d :: rest)).map fun (body, rest) => (c :: body, rest)

/-- The text up to the next double quote, which closes a double-quoted string whose opening
quote has been read, and the rest. -/
def closeDoubleQuoted? : Text → Option (Text × Text)
  | [] => none
  | c :: rest =>
    if c = '\x22' then some ([c], rest)
    else (closeDoubleQuoted? rest).map fun (body, rest) => (c :: body, rest)

/-- Whether a word character comes first. -/
def startsWord : Text → Bool
  | [] => false
  | c :: _ => isWordChar c

/-- The fractional part at the start of a text: a point, digits, and no word character behind
them. -/
def fraction? : Text → Option (Text × Text)
  | '.' :: rest =>
    let digits := rest.takeWhile isAsciiDigit
    let rest := rest.dropWhile isAsciiDigit
    if digits = [] || startsWord rest then none else some ('.' :: digits, rest)
  | _ => none

/-- The number at the start of a text: digits with an optional fraction, and no word character
behind them. -/
def number? (text : Text) : Option (Text × Text) :=
  let digits := text.takeWhile isAsciiDigit
  let rest := text.dropWhile isAsciiDigit
  if digits = [] then none
  else
    match fraction? rest with
    | some (fraction, rest) => some (digits ++ fraction, rest)
    | none => if startsWord rest then none else some (digits, rest)

/-- The kind of a word. -/
def wordKind (word : Text) : Token.Kind :=
  match Connective.ofKeyword? word with
  | some connective => .connective connective
  | none => .identifier

/-- The comparator at the start of a text; of two that fit the longer one. -/
def comparator? : Text → Option (Comparator × Text)
  | '>' :: '=' :: rest => some (.greaterOrEqual, rest)
  | '<' :: '=' :: rest => some (.lessOrEqual, rest)
  | '!' :: '=' :: rest => some (.notEqual, rest)
  | '<' :: rest => some (.less, rest)
  | '>' :: rest => some (.greater, rest)
  | '=' :: rest => some (.equal, rest)
  | _ => none

/-- The lexeme at the start of a text, and the rest. -/
def next? : Text → Option (Lexeme × Text)
  | [] => none
  | c :: rest =>
    if isAsciiBlank c then
      some (⟨none, c :: rest.takeWhile isAsciiBlank⟩, rest.dropWhile isAsciiBlank)
    else if c = Quoted.quote then
      (closeQuoted? rest).map fun (body, rest) => (⟨some .string, c :: body⟩, rest)
    else if c = '\x22' then
      (closeDoubleQuoted? rest).map fun (body, rest) => (⟨some .string, c :: body⟩, rest)
    else if isWordChar c then
      match number? (c :: rest) with
      | some (number, rest) => some (⟨some .number, number⟩, rest)
      | none =>
        let word := c :: rest.takeWhile isWordChar
        some (⟨some (wordKind word), word⟩, rest.dropWhile isWordChar)
    else if c = '(' then some (⟨some .openGroup, [c]⟩, rest)
    else if c = ')' then some (⟨some .closeGroup, [c]⟩, rest)
    else
      (comparator? (c :: rest)).map fun (comparator, rest) =>
        (⟨some (.comparator comparator), comparator.symbol⟩, rest)

/-- Closing a single-quoted string takes at least its closing quote. -/
theorem closeQuoted?_length {text body rest : Text}
    (closed : closeQuoted? text = some (body, rest)) : rest.length < text.length := by
  fun_induction closeQuoted? text generalizing body rest with
  | case1 => simp at closed
  | case2 => simp at closed; simp [← closed.2]
  | case3 => simp at closed
  | case4 _ _ _ inner ih =>
    have := ih inner
    simp at closed
    simp [← closed.2]
    omega
  | case5 => simp at closed; simp [← closed.2]
  | case6 => simp at closed; simp [← closed.2]
  | case7 c d after plain ih =>
    obtain ⟨⟨body', left⟩, inner, same⟩ := Option.map_eq_some_iff.1 closed
    have := ih inner
    simp at same
    simp [← same.2] at this ⊢
    omega

/-- Closing a double-quoted string takes at least its closing quote. -/
theorem closeDoubleQuoted?_length {text body rest : Text}
    (closed : closeDoubleQuoted? text = some (body, rest)) : rest.length < text.length := by
  fun_induction closeDoubleQuoted? text generalizing body rest with
  | case1 => simp at closed
  | case2 => simp at closed; simp [← closed.2]
  | case3 c after plain ih =>
    obtain ⟨⟨body', left⟩, inner, same⟩ := Option.map_eq_some_iff.1 closed
    have := ih inner
    simp at same
    simp [← same.2]
    omega

/-- A fraction takes at least its point. -/
theorem fraction?_length {text body rest : Text} (taken : fraction? text = some (body, rest)) :
    rest.length < text.length := by
  unfold fraction? at taken
  split at taken
  · rename_i after
    have := length_dropWhile_le isAsciiDigit after
    simp at taken
    simp [← taken.2.2]
    omega
  · simp at taken

/-- A number takes at least one digit. -/
theorem number?_length {text body rest : Text} (taken : number? text = some (body, rest)) :
    rest.length < text.length := by
  have dropped : text.takeWhile isAsciiDigit ≠ [] →
      (text.dropWhile isAsciiDigit).length < text.length := by
    intro digits
    have whole := congrArg List.length (@List.takeWhile_append_dropWhile _ isAsciiDigit text)
    have := List.length_pos_iff.2 digits
    rw [List.length_append] at whole
    omega
  unfold number? at taken
  simp only at taken
  split at taken
  · simp at taken
  · rename_i digits
    split at taken
    · rename_i fraction rest' isFraction
      have := fraction?_length isFraction
      have := dropped digits
      simp at taken
      rw [← taken.2]
      omega
    · split at taken
      · simp at taken
      · simp at taken
        rw [← taken.2]
        exact dropped digits

/-- A comparator takes at least one character. -/
theorem comparator?_length {text rest : Text} {comparator : Comparator}
    (taken : comparator? text = some (comparator, rest)) : rest.length < text.length := by
  unfold comparator? at taken
  split at taken <;> simp at taken <;> rw [← taken.2] <;> simp only [List.length_cons] <;> omega

/-- A lexeme is never empty: what it leaves is shorter than the text. -/
theorem next?_length {text rest : Text} {lexeme : Lexeme}
    (taken : next? text = some (lexeme, rest)) : rest.length < text.length := by
  unfold next? at taken
  split at taken
  · simp at taken
  rename_i c after
  have blanks := length_dropWhile_le isAsciiBlank after
  have word := length_dropWhile_le isWordChar after
  split at taken
  · simp at taken
    simp [← taken.2]
    omega
  split at taken
  · obtain ⟨⟨body, left⟩, closed, same⟩ := Option.map_eq_some_iff.1 taken
    have := closeQuoted?_length closed
    simp at same
    simp [← same.2]
    omega
  split at taken
  · obtain ⟨⟨body, left⟩, closed, same⟩ := Option.map_eq_some_iff.1 taken
    have := closeDoubleQuoted?_length closed
    simp at same
    simp [← same.2]
    omega
  split at taken
  · split at taken
    · rename_i number left isNumber
      have := number?_length isNumber
      simp at taken
      simp [← taken.2]
      simpa using this
    · simp at taken
      simp [← taken.2]
      omega
  split at taken
  · simp at taken
    simp [← taken.2]
  split at taken
  · simp at taken
    simp [← taken.2]
  · obtain ⟨⟨comparator, left⟩, isComparator, same⟩ := Option.map_eq_some_iff.1 taken
    have := comparator?_length isComparator
    simp at same
    simp [← same.2]
    simpa using this

end Lexeme

end ListQuery.Filter
