import ListQuery.Json.Leaf
import ListQuery.Proofs.Text.Run

/-!
# What the leaves of JSON take

A leaf is read off the start of a text. `Takes` says what that means: the text is what was read
followed by the rest, and with anything else in the place of the rest the same is read, provided
that it does not go on with the leaf. Strings and words end by themselves; a number goes on with a
digit, a point or the letter of an exponent. A number is read or is an integer of too many digits
(`IsLongInteger`), which a text shows without being read.
-/

namespace ListQuery.Json

open Text

/-- A reader takes the front of a text off it, and would take the same front off any other text, as
long as what stands behind the front does not start with a code point that goes on with it.
`outcome` is what the reader says of what is left. -/
def Takes {α : Type} (goesOn : CodePoint → Bool) (read outcome : Text → α) (text rest : Text) :
    Prop :=
  ∃ front, text = front ++ rest ∧
    ∀ other, StopsAt goesOn other → read (front ++ other) = outcome other

/-- Whether a code point goes on with nothing. -/
def never : CodePoint → Bool := fun _ => false

/-- No text goes on with what ends by itself. -/
theorem stopsAt_never (text : Text) : StopsAt never text :=
  fun _ _ => rfl

/-! ## Strings -/

/-- The body of a string ends by itself. -/
theorem takes_body? {text rest : Text} {body : List Piece}
    (taken : body? text = some (body, rest)) :
    Takes never body? (fun other => some (body, other)) text rest := by
  fun_induction body? text generalizing body rest with
  | case1 => cases taken
  | case2 after =>
    cases taken
    exact ⟨[CodePoint.scalar '\x22'], rfl, fun _ _ => rfl⟩
  | case3 a b c d after number isUnit ih =>
    obtain ⟨⟨inner, left⟩, isInner, same⟩ := Option.map_eq_some_iff.1 taken
    cases same
    obtain ⟨front, rfl, reads⟩ := ih isInner
    refine ⟨'\\' :: 'u' :: a :: b :: c :: d :: front, rfl, fun other ends => ?_⟩
    simp only [List.cons_append, body?, isUnit, reads other ends]
    rfl
  | case4 => cases taken
  | case5 escape after noUnit c isEscape ih =>
    obtain ⟨⟨inner, left⟩, isInner, same⟩ := Option.map_eq_some_iff.1 taken
    cases same
    obtain ⟨front, rfl, reads⟩ := ih isInner
    refine ⟨'\\' :: escape :: front, rfl, fun other ends => ?_⟩
    have noUnit : escape ≠ 'u' := by
      rintro rfl
      cases isEscape
    rw [List.cons_append, List.cons_append, body?, isEscape, reads other ends]
    · rfl
    · exact fun _ _ _ _ _ isU => absurd isU noUnit
  | case6 => cases taken
  | case7 => cases taken
  | case8 c after noQuote _ _ plain ih =>
    obtain ⟨⟨inner, left⟩, isInner, same⟩ := Option.map_eq_some_iff.1 taken
    cases same
    obtain ⟨front, rfl, reads⟩ := ih isInner
    refine ⟨c :: front, rfl, fun other ends => ?_⟩
    have noBackslash : c ≠ '\\' := fun same => plain (by simp [same])
    rw [List.cons_append, body?, if_neg plain, reads other ends]
    · rfl
    · exact noQuote
    · exact fun _ _ _ _ _ isBackslash => absurd isBackslash noBackslash
    · exact fun _ _ isBackslash => absurd isBackslash noBackslash

/-- A string ends by itself. -/
theorem takes_string? {text body rest : Text} (taken : string? text = some (body, rest)) :
    Takes never string? (fun other => some (body, other)) text rest := by
  obtain ⟨⟨pieces, left⟩, isBody, same⟩ := Option.map_eq_some_iff.1 taken
  cases same
  obtain ⟨front, rfl, reads⟩ := takes_body? isBody
  exact ⟨front, rfl, fun other ends => by rw [string?, reads other ends]; rfl⟩

/-! ## Fractions and exponents -/

/-- A fraction begins a text: a point with a digit behind it. -/
def BeginsFraction (text : Text) : Prop :=
  ∃ c rest, text = .scalar '.' :: c :: rest ∧ isAsciiDigit c = true

/-- An exponent begins a text: its letter, with a digit behind it or behind a sign. -/
def BeginsExponent (text : Text) : Prop :=
  ∃ letter sign c rest, text = letter :: (sign ++ c :: rest) ∧
    letter ∈ Text.of "eE" ∧ sign ∈ ([[], "+", "-"] : List Text) ∧ isAsciiDigit c = true

/-- Whether a code point goes on with a fraction. -/
def continuesFraction (c : CodePoint) : Bool :=
  isAsciiDigit c || c = '.'

/-- Whether a code point goes on with an exponent. -/
def continuesExponent (c : CodePoint) : Bool :=
  isAsciiDigit c || c = 'e' || c = 'E'

/-- Whether a code point goes on with a number. -/
def continuesNumber (c : CodePoint) : Bool :=
  continuesFraction c || continuesExponent c

/-- Digits are taken up to where they end. -/
theorem takes_digits (text : Text) :
    Takes isAsciiDigit (·.dropWhile isAsciiDigit) id text (text.dropWhile isAsciiDigit) :=
  ⟨text.takeWhile isAsciiDigit, List.takeWhile_append_dropWhile.symm,
    fun _ ends => dropWhile_run (within_takeWhile text) ends⟩

/-- Without a fraction there is nothing to take. -/
theorem afterFraction_of_none {text : Text} (none : ¬ BeginsFraction text) :
    afterFraction text = text := by
  unfold afterFraction
  split
  · rename_i c rest
    exact if_neg fun digit => none ⟨c, rest, rfl, digit⟩
  · rfl

/-- A fraction is taken up to where its digits end. -/
theorem afterFraction_of_begins {text : Text} (begins : BeginsFraction text) :
    (afterFraction text).length < text.length ∧
      Takes isAsciiDigit afterFraction id text (afterFraction text) := by
  obtain ⟨c, rest, rfl, digit⟩ := begins
  have taken : ∀ rest : Text,
      afterFraction (CodePoint.scalar '.' :: c :: rest) = rest.dropWhile isAsciiDigit :=
    fun rest => if_pos digit
  obtain ⟨front, same, reads⟩ := takes_digits rest
  rw [taken]
  refine ⟨?_, CodePoint.scalar '.' :: c :: front, ?_, fun other ends => ?_⟩
  · have := length_dropWhile_le isAsciiDigit rest
    simp only [List.length_cons]
    omega
  · rw [List.cons_append, List.cons_append, ← same]
  · exact (taken (front ++ other)).trans (reads other ends)

/-- A text begins no fraction unless it starts with what goes on with one. -/
theorem not_beginsFraction {text : Text} (ends : StopsAt continuesFraction text) :
    ¬ BeginsFraction text := by
  rintro ⟨c, rest, rfl, -⟩
  cases stopsAt_cons.1 ends

/-- A fraction is taken, if there is one. -/
theorem takes_afterFraction (text : Text) :
    Takes continuesFraction afterFraction id text (afterFraction text) := by
  by_cases begins : BeginsFraction text
  · obtain ⟨-, front, same, reads⟩ := afterFraction_of_begins begins
    exact ⟨front, same, fun other ends => reads other (ends.mono fun c digit => by
      simp [continuesFraction, digit])⟩
  · refine ⟨[], (afterFraction_of_none begins).symm, fun other ends => ?_⟩
    exact afterFraction_of_none (not_beginsFraction ends)

/-- A text is a sign, or no sign, and what is left without it. -/
theorem exists_afterSign (text : Text) :
    ∃ sign ∈ ([[], "+", "-"] : List Text), text = sign ++ afterSign text := by
  unfold afterSign
  split
  · exact ⟨"+", by simp, rfl⟩
  · exact ⟨"-", by simp, rfl⟩
  · exact ⟨[], by simp, rfl⟩

/-- A sign is left out in front of a digit. -/
theorem afterSign_append {sign : Text} {c : CodePoint} (rest : Text)
    (isSign : sign ∈ ([[], "+", "-"] : List Text)) (digit : isAsciiDigit c = true) :
    afterSign (sign ++ c :: rest) = c :: rest := by
  simp only [List.mem_cons, List.not_mem_nil, or_false] at isSign
  rcases isSign with rfl | rfl | rfl
  · unfold afterSign
    split
    · rename_i same
      cases same
      cases digit
    · rename_i same
      cases same
      cases digit
    · rfl
  · rfl
  · rfl

/-- The letters of an exponent. -/
theorem mem_exponentLetters {c : CodePoint} :
    c ∈ Text.of "eE" ↔ (c = 'e' || c = 'E') = true := by
  simp [Text.of]

/-- Without an exponent there is nothing to take. -/
theorem afterExponent_of_none {text : Text} (none : ¬ BeginsExponent text) :
    afterExponent text = text := by
  unfold afterExponent
  split
  · rename_i letter rest
    split
    · rename_i isLetter
      obtain ⟨sign, isSign, signed⟩ := exists_afterSign rest
      cases digits : afterSign rest with
      | nil => rfl
      | cons c more =>
        rw [digits] at signed
        have other : ¬ isAsciiDigit c = true := fun digit =>
          none ⟨letter, sign, c, more, congrArg _ signed, mem_exponentLetters.2 isLetter, isSign,
            digit⟩
        rw [afterExponentDigits?, if_neg other, Option.getD_none]
    · rfl
  · rfl

/-- An exponent is taken up to where its digits end. -/
theorem afterExponent_of_begins {text : Text} (begins : BeginsExponent text) :
    (afterExponent text).length < text.length ∧
      ∃ front, text = front ++ afterExponent text ∧ StopsAt continuesFraction front ∧
        ∀ other, StopsAt isAsciiDigit other → afterExponent (front ++ other) = other := by
  obtain ⟨letter, sign, c, rest, rfl, isLetter, isSign, digit⟩ := begins
  have taken : ∀ rest : Text,
      afterExponent (letter :: (sign ++ c :: rest)) = rest.dropWhile isAsciiDigit := by
    intro rest
    rw [afterExponent, if_pos (mem_exponentLetters.1 isLetter),
      afterSign_append rest isSign digit, afterExponentDigits?, if_pos digit, Option.getD_some]
  obtain ⟨front, same, reads⟩ := takes_digits rest
  rw [taken]
  refine ⟨?_, letter :: (sign ++ c :: front), ?_, ?_, fun other ends => ?_⟩
  · have := length_dropWhile_le isAsciiDigit rest
    simp only [List.length_cons, List.length_append]
    omega
  · rw [List.cons_append, List.append_assoc, List.cons_append, ← same]
  · rw [stopsAt_cons]
    have isLetter := mem_exponentLetters.1 isLetter
    simp only [Bool.or_eq_true, decide_eq_true_eq] at isLetter
    rcases isLetter with rfl | rfl <;> rfl
  · rw [List.cons_append, List.append_assoc, List.cons_append, taken]
    exact reads other ends

/-- A text begins no exponent unless it starts with what goes on with one. -/
theorem not_beginsExponent {text : Text} (ends : StopsAt continuesExponent text) :
    ¬ BeginsExponent text := by
  rintro ⟨letter, sign, c, rest, rfl, isLetter, -, -⟩
  have outside := stopsAt_cons.1 ends
  have isLetter := mem_exponentLetters.1 isLetter
  simp_all [continuesExponent]

/-- An exponent is taken, if there is one, and does not start like a fraction. -/
theorem takes_afterExponent (text : Text) : ∃ front,
    text = front ++ afterExponent text ∧ StopsAt continuesFraction front ∧
      ∀ other, StopsAt continuesExponent other → afterExponent (front ++ other) = other := by
  by_cases begins : BeginsExponent text
  · obtain ⟨-, front, same, starts, reads⟩ := afterExponent_of_begins begins
    exact ⟨front, same, starts, fun other ends => reads other (ends.mono fun c digit => by
      simp [continuesExponent, digit])⟩
  · refine ⟨[], (afterExponent_of_none begins).symm, stopsAt_nil, fun other ends => ?_⟩
    exact afterExponent_of_none (not_beginsExponent ends)

/-- Nothing follows the digits of a number exactly if neither a fraction nor an exponent does. -/
theorem afterExponent_afterFraction_eq_iff {text : Text} :
    afterExponent (afterFraction text) = text ↔
      ¬ BeginsFraction text ∧ ¬ BeginsExponent text := by
  constructor
  · intro same
    have least := length_afterExponent_le (afterFraction text)
    have noFraction : ¬ BeginsFraction text := by
      intro begins
      have shorter := (afterFraction_of_begins begins).1
      rw [same] at least
      omega
    refine ⟨noFraction, fun begins => ?_⟩
    have shorter := (afterExponent_of_begins begins).1
    rw [afterFraction_of_none noFraction] at same
    rw [same] at shorter
    omega
  · rintro ⟨noFraction, noExponent⟩
    rw [afterFraction_of_none noFraction, afterExponent_of_none noExponent]

/-! ## Numbers -/

/-- What may stand in front of the digits of a number: nothing or a minus sign. -/
def IsSign (sign : Text) : Prop :=
  sign = [] ∨ sign = [.scalar '-']

/-- Digits are the whole part of a number in front of some text: a zero alone, or all the digits
that stand there, of which the first is no zero. -/
inductive IsWhole : (digits behind : Text) → Prop where
  | zero (behind : Text) : IsWhole "0" behind
  | digits {digits behind : Text} (run : DigitRun digits) (unpadded : digits.head? ≠ some '0')
      (ends : StopsAt isAsciiDigit behind) : IsWhole digits behind

/-- An integer begins a text: digits behind no sign or a minus sign, without a fraction or an
exponent behind them. -/
def BeginsInteger (text digits : Text) : Prop :=
  ∃ sign behind, text = sign ++ digits ++ behind ∧ IsSign sign ∧ IsWhole digits behind ∧
    ¬ BeginsFraction behind ∧ ¬ BeginsExponent behind

/-- An integer of too many digits begins a text. -/
def BeginsLongInteger (text : Text) : Prop :=
  ∃ digits, BeginsInteger text digits ∧ maxDigits < digits.length

namespace IsWhole

variable {digits behind : Text}

/-- The whole part of a number starts with a digit. -/
theorem exists_cons (whole : IsWhole digits behind) :
    ∃ c rest, digits = c :: rest ∧ isAsciiDigit c = true := by
  cases whole with
  | zero => exact ⟨'0', [], rfl, rfl⟩
  | digits run =>
    obtain ⟨c, rest, same, digit⟩ := run.exists_cons []
    exact ⟨c, rest, by simpa using same, digit⟩

/-- The whole part of a number remains that with something else behind it, as far as no digits
follow. -/
theorem append {front rest other : Text} (whole : IsWhole digits (front ++ rest))
    (ends : StopsAt isAsciiDigit other) : IsWhole digits (front ++ other) := by
  cases whole with
  | zero => exact .zero _
  | digits run unpadded stops => exact .digits run unpadded (stops.append ends)

/-- The whole part of a number is read. -/
theorem wholePart? (whole : IsWhole digits behind) :
    wholePart? (digits ++ behind) = some (digits, behind) := by
  cases whole with
  | zero => rfl
  | digits run unpadded ends =>
    obtain ⟨c, rest, rfl⟩ := List.exists_cons_of_ne_nil run.nonempty
    obtain ⟨digit, inside⟩ := within_cons.1 run.digits
    have nonzero : c ≠ '0' := by simpa using unpadded
    simp [Json.wholePart?, nonzero, digit, takeWhile_run inside ends, dropWhile_run inside ends]

end IsWhole

/-- What is read as the whole part of a number is that. -/
theorem isWhole_of_wholePart? {text digits rest : Text}
    (taken : wholePart? text = some (digits, rest)) :
    text = digits ++ rest ∧ IsWhole digits rest := by
  unfold wholePart? at taken
  split at taken
  · rename_i c after
    split at taken
    · rename_i zero
      cases taken
      subst zero
      exact ⟨rfl, .zero rest⟩
    · rename_i nonzero
      split at taken
      · rename_i digit
        cases taken
        refine ⟨by simp, .digits ⟨by simp, within_cons.2 ⟨digit, within_takeWhile after⟩⟩ ?_
          (stopsAt_dropWhile after)⟩
        simpa using nonzero
      · cases taken
  · cases taken

/-- A text is a sign and what is left without it. -/
theorem exists_sign (text : Text) : ∃ sign, IsSign sign ∧ text = sign ++ unsigned text := by
  unfold unsigned
  split
  · exact ⟨[.scalar '-'], .inr rfl, rfl⟩
  · exact ⟨[], .inl rfl, rfl⟩

/-- The sign in front of a digit is left out. -/
theorem unsigned_append {sign : Text} {c : CodePoint} (rest : Text) (isSign : IsSign sign)
    (digit : isAsciiDigit c = true) : unsigned (sign ++ c :: rest) = c :: rest := by
  rcases isSign with rfl | rfl
  · unfold unsigned
    split
    · rename_i same
      cases same
      cases digit
    · rfl
  · rfl

section

variable {sign digits behind : Text}

/-- A number is read behind its whole part. -/
theorem afterNumber_of_whole (isSign : IsSign sign) (whole : IsWhole digits behind) :
    afterNumber (sign ++ digits ++ behind) =
      if afterExponent (afterFraction behind) = behind && maxDigits < digits.length then
        .error .numberTooLong
      else .ok (afterExponent (afterFraction behind)) := by
  have found := whole.wholePart?
  obtain ⟨c, rest, rfl, digit⟩ := whole.exists_cons
  rw [afterNumber, List.append_assoc, List.cons_append, unsigned_append _ isSign digit,
    ← List.cons_append, found]

/-- A text is no number, or starts with the whole part of one. -/
theorem afterNumber_cases (text : Text) : afterNumber text = .error .notJson ∨
    ∃ sign digits behind, text = sign ++ digits ++ behind ∧ IsSign sign ∧
      IsWhole digits behind := by
  obtain ⟨sign, isSign, signed⟩ := exists_sign text
  cases taken : wholePart? (unsigned text) with
  | none =>
    left
    rw [afterNumber, taken]
  | some step =>
    obtain ⟨digits, behind⟩ := step
    obtain ⟨same, whole⟩ := isWhole_of_wholePart? taken
    exact .inr ⟨sign, digits, behind, by rw [List.append_assoc, ← same]; exact signed, isSign,
      whole⟩

end

/-- A number is taken, with its fraction and its exponent if there are some. -/
theorem takes_afterNumber {text rest : Text} (taken : afterNumber text = .ok rest) :
    Takes continuesNumber afterNumber .ok text rest := by
  rcases afterNumber_cases text with failed | ⟨sign, digits, behind, rfl, isSign, whole⟩
  · cases failed.symm.trans taken
  obtain ⟨fraction, isFraction, readsFraction⟩ := takes_afterFraction behind
  obtain ⟨exponent, isExponent, starts, readsExponent⟩ := takes_afterExponent (afterFraction behind)
  rw [afterNumber_of_whole isSign whole] at taken
  split at taken
  · cases taken
  rename_i short
  cases taken
  have split : behind = fraction ++ exponent ++ afterExponent (afterFraction behind) := by
    rw [List.append_assoc, ← isExponent]
    exact isFraction
  refine ⟨sign ++ digits ++ (fraction ++ exponent), ?_, fun other ends => ?_⟩
  · rw [List.append_assoc (sign ++ digits), ← split]
  have digitsEnd : StopsAt isAsciiDigit other :=
    ends.mono fun c digit => by simp [continuesNumber, continuesFraction, digit]
  have fractionEnds : StopsAt continuesFraction (exponent ++ other) := by
    rw [← List.append_nil exponent] at starts
    exact starts.append (ends.mono fun c held => by simp [continuesNumber, held])
  have exponentEnds : StopsAt continuesExponent other :=
    ends.mono fun c held => by simp [continuesNumber, held]
  have left : afterExponent (afterFraction (fraction ++ exponent ++ other)) = other := by
    rw [List.append_assoc, readsFraction _ fractionEnds]
    exact readsExponent other exponentEnds
  have stays : IsWhole digits (fraction ++ exponent ++ other) :=
    (split ▸ whole).append digitsEnd
  rw [List.append_assoc, afterNumber_of_whole isSign stays, left]
  refine if_neg fun long => short ?_
  simp only [Bool.and_eq_true, decide_eq_true_eq] at long ⊢
  refine ⟨?_, long.2⟩
  have nothing : fraction ++ exponent = [] := List.self_eq_append_left.1 long.1
  rw [nothing, List.nil_append] at split
  exact split.symm

/-- What fails to be read as a number is none, or an integer of too many digits. -/
theorem afterNumber_eq_error {text : Text} {fault : Fault}
    (failed : afterNumber text = .error fault) :
    fault = .notJson ∨ fault = .numberTooLong ∧ BeginsLongInteger text := by
  rcases afterNumber_cases text with notJson | ⟨sign, digits, behind, rfl, isSign, whole⟩
  · cases notJson.symm.trans failed
    exact .inl rfl
  · rw [afterNumber_of_whole isSign whole] at failed
    split at failed
    · rename_i found
      simp only [Bool.and_eq_true, decide_eq_true_eq, afterExponent_afterFraction_eq_iff] at found
      cases failed
      exact .inr ⟨rfl, digits, ⟨sign, behind, rfl, isSign, whole, found.1⟩, found.2⟩
    · cases failed

/-- An integer of too many digits is not read. -/
theorem afterNumber_of_long {text : Text} (long : BeginsLongInteger text) :
    afterNumber text = .error .numberTooLong := by
  obtain ⟨digits, ⟨sign, behind, rfl, isSign, whole, none⟩, many⟩ := long
  rw [afterNumber_of_whole isSign whole, if_pos]
  simp only [Bool.and_eq_true, decide_eq_true_eq, afterExponent_afterFraction_eq_iff]
  exact ⟨none, many⟩

/-! ## Words and scalars -/

/-- A word at the start of a text is taken off it. -/
theorem eq_append_of_afterWord? {word text rest : Text}
    (taken : afterWord? word text = some rest) : text = word ++ rest := by
  fun_induction afterWord? word text with
  | case1 =>
    cases taken
    rfl
  | case2 => cases taken
  | case3 w word text ih => rw [ih taken, List.cons_append]
  | case4 => cases taken

/-- A word that stands for a scalar ends by itself. -/
theorem afterScalar_of_word : ∀ word ∈ scalarWords, ∀ other,
    afterScalar (word ++ other) = .ok other := by
  simp only [scalarWords, List.mem_cons, List.not_mem_nil, or_false]
  rintro _ (rfl | rfl | rfl | rfl | rfl | rfl) other <;> rfl

/-- A text that starts as a number does starts with no word that stands for a scalar. -/
theorem afterScalar_of_digit {sign : Text} {c : CodePoint} (rest : Text) (isSign : IsSign sign)
    (digit : isAsciiDigit c = true) :
    afterScalar (sign ++ c :: rest) = afterNumber (sign ++ c :: rest) := by
  have other : ∀ {d : CodePoint}, isAsciiDigit d = false → d ≠ c :=
    fun outside => (ne_of_class digit outside).symm
  have noWord : scalarWords.findSome? (afterWord? · (sign ++ c :: rest)) = none := by
    rcases isSign with rfl | rfl <;>
      simp [scalarWords, Text.of, afterWord?, other (d := '-') rfl, other (d := 'n') rfl,
        other (d := 't') rfl, other (d := 'f') rfl, other (d := 'N') rfl, other (d := 'I') rfl]
  rw [afterScalar, noWord]

/-- A scalar is taken: a word, or a number. -/
theorem takes_afterScalar {text rest : Text} (taken : afterScalar text = .ok rest) :
    Takes continuesNumber afterScalar .ok text rest := by
  cases found : scalarWords.findSome? (afterWord? · text) with
  | some left =>
    obtain ⟨word, isWord, isLeft⟩ := List.exists_of_findSome?_eq_some found
    obtain rfl := eq_append_of_afterWord? isLeft
    cases (afterScalar_of_word word isWord left).symm.trans taken
    exact ⟨word, rfl, fun other _ => afterScalar_of_word word isWord other⟩
  | none =>
    rw [afterScalar, found] at taken
    obtain ⟨front, same, reads⟩ := takes_afterNumber taken
    refine ⟨front, same, fun other ends => ?_⟩
    have number := reads other ends
    rcases afterNumber_cases (front ++ other) with failed | ⟨sign, digits, behind, split, isSign,
      whole⟩
    · cases failed.symm.trans number
    · obtain ⟨c, more, rfl, digit⟩ := whole.exists_cons
      rw [List.append_assoc, List.cons_append] at split
      rw [split] at number ⊢
      rw [afterScalar_of_digit _ isSign digit, number]

/-- What fails to be read as a scalar is none, or an integer of too many digits. -/
theorem afterScalar_eq_error {text : Text} {fault : Fault}
    (failed : afterScalar text = .error fault) :
    fault = .notJson ∨ fault = .numberTooLong ∧ BeginsLongInteger text := by
  unfold afterScalar at failed
  split at failed
  · cases failed
  · exact afterNumber_eq_error failed

/-- An integer of too many digits is no scalar that can be read. -/
theorem afterScalar_of_long {text : Text} (long : BeginsLongInteger text) :
    afterScalar text = .error .numberTooLong := by
  have failed := afterNumber_of_long long
  obtain ⟨digits, ⟨sign, behind, rfl, isSign, whole, -⟩, -⟩ := long
  obtain ⟨c, more, rfl, digit⟩ := whole.exists_cons
  rw [List.append_assoc, List.cons_append] at failed ⊢
  rw [afterScalar_of_digit _ isSign digit, failed]

end ListQuery.Json
