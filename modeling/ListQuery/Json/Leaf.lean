import ListQuery.Json.Basic
import ListQuery.Text.Digit

/-!
# The leaves of JSON

Strings, numbers and words at the start of a JSON text, each with the rest of the text behind
it, and a lemma that the rest is shorter. Two escapes in a row that write a surrogate pair are
joined; any other surrogate stays in the text as a code point of its own. Integers may have 4300
digits.
-/

namespace ListQuery.Json

open Text

/-- The most digits of an integer. -/
def maxDigits : Nat := 4300

/-- The blanks of JSON: space, tab, line feed and carriage return. -/
def isJsonBlank (c : CodePoint) : Bool :=
  c = ' ' || c = '\t' || c = '\n' || c = '\r'

/-- A text without its leading blanks. -/
def skipBlanks (text : Text) : Text :=
  text.dropWhile isJsonBlank

/-- The value of a hexadecimal digit. -/
def hexValue? (c : CodePoint) : Option Nat :=
  let n := c.toNat
  if isAsciiDigit c then some (n - 48)
  else if 65 ≤ n && n ≤ 70 then some (n - 55)
  else if 97 ≤ n && n ≤ 102 then some (n - 87)
  else none

/-- The value of four hexadecimal digits. -/
def hexUnit? (a b c d : CodePoint) : Option Nat := do
  return (((← hexValue? a) * 16 + (← hexValue? b)) * 16 + (← hexValue? c)) * 16 +
    (← hexValue? d)

/-- The character that a one-letter escape stands for. -/
def escaped? (c : CodePoint) : Option CodePoint :=
  match c with
  | '\x22' => some '\x22'
  | '\\' => some '\\'
  | '/' => some '/'
  | 'b' => some '\x08'
  | 'f' => some '\x0c'
  | 'n' => some '\n'
  | 'r' => some '\r'
  | 't' => some '\t'
  | _ => none

/-- A part of a string: a code point that is written as it is or by a one-letter escape, or the
unit that an escape of four digits writes. -/
inductive Piece where
  | plain (c : CodePoint)
  | unit (number : Nat)
deriving Repr, DecidableEq

/-- The parts of a string whose opening quote has been read, and the rest after its closing
quote. -/
def body? : Text → Option (List Piece × Text)
  | [] => none
  | '\x22' :: rest => some ([], rest)
  | '\\' :: 'u' :: a :: b :: c :: d :: rest =>
    match hexUnit? a b c d with
    | some number => (body? rest).map fun (body, rest) => (.unit number :: body, rest)
    | none => none
  | '\\' :: escape :: rest =>
    match escaped? escape with
    | some c => (body? rest).map fun (body, rest) => (.plain c :: body, rest)
    | none => none
  | c :: rest =>
    if c.toNat < 32 || c = '\\' then none
    else (body? rest).map fun (body, rest) => (.plain c :: body, rest)

/-- Whether a unit is the first half of a surrogate pair. -/
def isHighHalf (unit : Nat) : Bool := 0xD800 ≤ unit && unit < 0xDC00

/-- Whether a unit is the second half of a surrogate pair. -/
def isLowHalf (unit : Nat) : Bool := 0xDC00 ≤ unit && unit < 0xE000

/-- The text that the parts of a string write. The halves of a pair are joined if escapes write both
of them and stand next to each other. -/
def joined : List Piece → Text
  | [] => []
  | .unit high :: .unit low :: rest =>
    if isHighHalf high && isLowHalf low then
      .ofNat (0x10000 + (high - 0xD800) * 0x400 + (low - 0xDC00)) :: joined rest
    else .ofNat high :: joined (.unit low :: rest)
  | .unit number :: rest => .ofNat number :: joined rest
  | .plain c :: rest => c :: joined rest

/-- The string whose opening quote has been read. -/
def string? (text : Text) : Option (Text × Text) :=
  (body? text).map fun (body, rest) => (joined body, rest)

/-- The rest after a word at the start of a text. -/
def afterWord? : (word text : Text) → Option Text
  | [], text => some text
  | _ :: _, [] => none
  | w :: word, c :: text => if w = c then afterWord? word text else none

/-- The words that stand for a scalar. -/
def scalarWords : List Text :=
  ["null", "true", "false", "NaN", "Infinity",
    "-Infinity"]

/-- The rest after the fractional part of a number; the whole text if it has none. -/
def afterFraction (text : Text) : Text :=
  match text with
  | '.' :: c :: rest => if isAsciiDigit c then rest.dropWhile isAsciiDigit else text
  | _ => text

/-- The rest after the digits of an exponent, if there is a digit. -/
def afterExponentDigits? : Text → Option Text
  | c :: rest => if isAsciiDigit c then some (rest.dropWhile isAsciiDigit) else none
  | [] => none

/-- A text without a leading sign. -/
def afterSign : Text → Text
  | '+' :: rest => rest
  | '-' :: rest => rest
  | text => text

/-- The rest after the exponent of a number; the whole text if it has none. -/
def afterExponent (text : Text) : Text :=
  match text with
  | c :: rest =>
    if c = 'e' || c = 'E' then (afterExponentDigits? (afterSign rest)).getD text else text
  | [] => text

/-- The digits of the whole part of a number, and the rest: a zero alone, or digits that start
with no zero. -/
def wholePart? : Text → Option (Text × Text)
  | c :: rest =>
    if c = '0' then some ([c], rest)
    else if isAsciiDigit c then
      some (c :: rest.takeWhile isAsciiDigit, rest.dropWhile isAsciiDigit)
    else none
  | [] => none

/-- A text without a leading minus sign. -/
def unsigned : Text → Text
  | '-' :: rest => rest
  | text => text

/-- The rest after a number. -/
def afterNumber (text : Text) : Except Fault Text :=
  match wholePart? (unsigned text) with
  | none => .error .notJson
  | some (digits, rest) =>
    let final := afterExponent (afterFraction rest)
    if final = rest && maxDigits < digits.length then .error .numberTooLong else .ok final

/-- The rest after a scalar that is a word or a number. -/
def afterScalar (text : Text) : Except Fault Text :=
  match scalarWords.findSome? (afterWord? · text) with
  | some rest => .ok rest
  | none => afterNumber text

/-- The body of a string takes at least its closing quote. -/
theorem body?_length {text rest : Text} {body : List Piece}
    (taken : body? text = some (body, rest)) : rest.length < text.length := by
  fun_induction body? text generalizing body rest with
  | case1 => simp at taken
  | case2 => simp at taken; simp [← taken.2]
  | case3 a b c d after unit _ ih =>
    obtain ⟨⟨tail, left⟩, inner, same⟩ := Option.map_eq_some_iff.1 taken
    have := ih inner
    simp at same
    simp [← same.2]
    omega
  | case4 => simp at taken
  | case5 _ _ _ _ _ ih =>
    obtain ⟨⟨tail, left⟩, inner, same⟩ := Option.map_eq_some_iff.1 taken
    have := ih inner
    simp at same
    simp [← same.2]
    omega
  | case6 => simp at taken
  | case7 => simp at taken
  | case8 _ _ _ _ _ _ ih =>
    obtain ⟨⟨tail, left⟩, inner, same⟩ := Option.map_eq_some_iff.1 taken
    have := ih inner
    simp at same
    simp [← same.2]
    omega

/-- A string takes at least its closing quote. -/
theorem string?_length {text body rest : Text} (taken : string? text = some (body, rest)) :
    rest.length < text.length := by
  obtain ⟨⟨unjoined, left⟩, inner, same⟩ := Option.map_eq_some_iff.1 taken
  simp at same
  rw [← same.2]
  exact body?_length inner

/-- Skipping blanks never makes a text longer. -/
theorem length_skipBlanks_le (text : Text) : (skipBlanks text).length ≤ text.length :=
  length_dropWhile_le isJsonBlank text

/-- A word takes as many characters as it has. -/
theorem afterWord?_length {word text rest : Text} (taken : afterWord? word text = some rest) :
    text.length = word.length + rest.length := by
  fun_induction afterWord? word text with
  | case1 => simp at taken; simp [taken]
  | case2 => simp at taken
  | case3 _ _ _ ih => have := ih taken; simp [this]; omega
  | case4 => simp at taken

/-- Skipping a fraction never makes a text longer. -/
theorem length_afterFraction_le (text : Text) : (afterFraction text).length ≤ text.length := by
  unfold afterFraction
  split
  · rename_i c rest
    have := length_dropWhile_le isAsciiDigit rest
    split
    · simp only [List.length_cons]
      omega
    · simp
  · simp

/-- The digits of an exponent are not empty. -/
theorem afterExponentDigits?_length {text rest : Text}
    (taken : afterExponentDigits? text = some rest) : rest.length < text.length := by
  unfold afterExponentDigits? at taken
  split at taken
  · rename_i c after
    have := length_dropWhile_le isAsciiDigit after
    split at taken <;> simp at taken
    rw [← taken]
    simp
    omega
  · simp at taken

/-- Skipping a sign never makes a text longer. -/
theorem length_afterSign_le (text : Text) : (afterSign text).length ≤ text.length := by
  unfold afterSign
  split <;> simp

/-- Skipping an exponent never makes a text longer. -/
theorem length_afterExponent_le (text : Text) : (afterExponent text).length ≤ text.length := by
  unfold afterExponent
  split
  · rename_i c rest
    split
    · have := length_afterSign_le rest
      cases digits : afterExponentDigits? (afterSign rest) with
      | none => simp
      | some left =>
        have := afterExponentDigits?_length digits
        simp
        omega
    · simp
  · simp

/-- The whole part of a number has at least one digit. -/
theorem wholePart?_length {text digits rest : Text}
    (taken : wholePart? text = some (digits, rest)) : rest.length < text.length := by
  unfold wholePart? at taken
  split at taken
  · rename_i c after
    have := length_dropWhile_le isAsciiDigit after
    split at taken
    · simp at taken; simp [← taken.2]
    · split at taken <;> simp at taken
      rw [← taken.2]
      simp
      omega
  · simp at taken

/-- A number is never empty. -/
theorem afterNumber_length {text rest : Text} (taken : afterNumber text = .ok rest) :
    rest.length < text.length := by
  have : (unsigned text).length ≤ text.length := by
    unfold unsigned
    split <;> simp
  unfold afterNumber at taken
  split at taken
  · simp at taken
  · rename_i digits left whole
    have := wholePart?_length whole
    have := length_afterExponent_le (afterFraction left)
    have := length_afterFraction_le left
    simp only at taken
    split at taken
    · simp at taken
    · injection taken with taken
      rw [← taken]
      omega

/-- A scalar is never empty: what it leaves is shorter than the text. -/
theorem afterScalar_length {text rest : Text} (taken : afterScalar text = .ok rest) :
    rest.length < text.length := by
  unfold afterScalar at taken
  split at taken
  · rename_i left found
    obtain ⟨word, isWord, after⟩ := List.exists_of_findSome?_eq_some found
    have lengths := afterWord?_length after
    have : word.length > 0 := by
      simp only [scalarWords, List.mem_cons, List.not_mem_nil, or_false] at isWord
      rcases isWord with rfl | rfl | rfl | rfl | rfl | rfl <;> simp [of]
    simp at taken
    rw [← taken]
    omega
  · exact afterNumber_length taken

end ListQuery.Json
