import ListQuery.Proofs.Text.Quoted

/-!
# Reading quoted texts by replacement

`decode` reads a quoted text code point by code point. The same text is found by taking off the
outer quotes, putting one quote for every two from left to right, and refusing a token from which
deleting the pairs leaves a quote.
-/

namespace ListQuery.Text.Quoted

/-- Replaces pairs of neighbouring quotes from left to right. Pairs do not overlap. -/
def replacePairs (replacement : Text) : Text → Text
  | [] => []
  | [c] => [c]
  | c :: d :: rest =>
    if c = quote ∧ d = quote then replacement ++ replacePairs replacement rest
    else c :: replacePairs replacement (d :: rest)

section

variable {replacement : Text}

@[simp] theorem replacePairs_nil : replacePairs replacement [] = [] := rfl

@[simp] theorem replacePairs_pair (rest : Text) :
    replacePairs replacement (quote :: quote :: rest) =
      replacement ++ replacePairs replacement rest := by
  simp [replacePairs]

/-- A code point that is no quote stays. -/
theorem replacePairs_of_ne {c : CodePoint} (plain : c ≠ quote) (rest : Text) :
    replacePairs replacement (c :: rest) = c :: replacePairs replacement rest := by
  cases rest <;> simp [replacePairs, plain]

end

/-- Halving the pairs of a doubled text gives the text. -/
theorem replacePairs_double (text : Text) : replacePairs [quote] (double text) = text := by
  induction text with
  | nil => rfl
  | cons c rest ih =>
    by_cases isQuote : c = quote
    · subst isQuote
      simp [ih]
    · rw [double_of_ne isQuote, replacePairs_of_ne isQuote, ih]

/-- Deleting the pairs of a doubled text leaves no quote. -/
theorem quote_not_mem_replacePairs_double (text : Text) :
    quote ∉ replacePairs [] (double text) := by
  induction text with
  | nil => simp
  | cons c rest ih =>
    by_cases isQuote : c = quote
    · subst isQuote
      simpa using ih
    · rw [double_of_ne isQuote, replacePairs_of_ne isQuote, List.mem_cons, not_or]
      exact ⟨Ne.symm isQuote, ih⟩

/-- A text from which deleting the pairs leaves no quote is a doubled text. -/
theorem double_replacePairs {text : Text} (paired : quote ∉ replacePairs [] text) :
    double (replacePairs [quote] text) = text := by
  fun_induction replacePairs [quote] text with
  | case1 => rfl
  | case2 c =>
    have plain : c ≠ quote := by
      rintro rfl
      simp [replacePairs] at paired
    rw [double_of_ne plain]
    rfl
  | case3 c d rest pair ih =>
    obtain ⟨rfl, rfl⟩ := pair
    rw [replacePairs_pair] at paired
    simp [ih paired]
  | case4 c d rest apart ih =>
    rw [replacePairs, if_neg apart, List.mem_cons, not_or] at paired
    rw [double_of_ne (Ne.symm paired.1), ih paired.2]

/-- A token reads as a text exactly if it stands in quotes, deleting pairs of quotes inside leaves
none, and halving them gives the text. -/
theorem decode_eq_some_iff_replacePairs {token text : Text} :
    decode token = some text ↔ ∃ inner, token = quote :: (inner ++ [quote]) ∧
      quote ∉ replacePairs [] inner ∧ replacePairs [quote] inner = text := by
  rw [decode_eq_some_iff]
  constructor
  · rintro rfl
    exact ⟨double text, rfl, quote_not_mem_replacePairs_double text, replacePairs_double text⟩
  · rintro ⟨inner, rfl, paired, rfl⟩
    rw [encode, double_replacePairs paired]

end ListQuery.Text.Quoted
