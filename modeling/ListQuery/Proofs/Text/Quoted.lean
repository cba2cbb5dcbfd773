import ListQuery.Text.Quoted

/-!
# Reading quoted texts back

The quoted form of a text reads back as that text, and nothing else reads as a text at all:
`decode_eq_some_iff` says that reading accepts exactly the quoted forms.
-/

namespace ListQuery.Text.Quoted

@[simp] theorem double_nil : double [] = [] := rfl

@[simp] theorem double_quote (rest : Text) :
    double (quote :: rest) = quote :: quote :: double rest := by
  simp [double]

/-- A code point that is no quote is written once. -/
theorem double_of_ne {c : CodePoint} (plain : c ≠ quote) (rest : Text) :
    double (c :: rest) = c :: double rest := by
  simp [double, plain]

/-- The doubled text and a closing quote read back as the text. -/
theorem decodeBody_double (text : Text) : decodeBody (double text ++ [quote]) = some text := by
  induction text with
  | nil => simp [decodeBody]
  | cons c rest ih =>
    by_cases isQuote : c = quote
    · subst isQuote
      simp [decodeBody, ih]
    · rw [double_of_ne isQuote]
      obtain ⟨d, after, shape⟩ : ∃ d after, double rest ++ [quote] = d :: after :=
        List.exists_cons_of_ne_nil (by simp)
      rw [List.cons_append, shape, decodeBody, if_neg isQuote, ← shape, ih]
      rfl

/-- What reads back as a text is the doubled text and a closing quote. -/
theorem eq_double_of_decodeBody {body text : Text} (decoded : decodeBody body = some text) :
    body = double text ++ [quote] := by
  fun_induction decodeBody body generalizing text with
  | case1 => simp at decoded
  | case2 => simp_all
  | case3 => simp at decoded
  | case4 rest ih =>
    obtain ⟨inner, isInner, rfl⟩ := Option.map_eq_some_iff.1 decoded
    rw [double_quote, ih isInner]
    rfl
  | case5 => simp at decoded
  | case6 c d rest plain ih =>
    obtain ⟨inner, isInner, rfl⟩ := Option.map_eq_some_iff.1 decoded
    rw [double_of_ne plain, ih isInner]
    rfl

/-- The quoted form of a text reads back as the text. -/
@[simp] theorem decode_encode (text : Text) : decode (encode text) = some text := by
  simp [decode, encode, decodeBody_double]

/-- A token reads as a text exactly if it is the quoted form of that text. -/
theorem decode_eq_some_iff {token text : Text} :
    decode token = some text ↔ token = encode text := by
  constructor
  · intro decoded
    cases token with
    | nil => simp [decode] at decoded
    | cons c body =>
      by_cases isQuote : c = quote
      · rw [decode, if_pos isQuote] at decoded
        rw [eq_double_of_decodeBody decoded, isQuote, encode]
      · simp [decode, isQuote] at decoded
  · rintro rfl
    exact decode_encode text

/-- What stands in quotes is a part of the quoted form. -/
theorem subset_encode (text : Text) : text ⊆ encode text := by
  have doubled : text ⊆ double text := by
    induction text with
    | nil => exact List.nil_subset _
    | cons c rest ih =>
      by_cases isQuote : c = quote
      · subst isQuote
        rw [double_quote]
        exact List.cons_subset_cons _ (List.subset_cons_of_subset _ ih)
      · rw [double_of_ne isQuote]
        exact List.cons_subset_cons c ih
  intro c inside
  simp [encode, doubled inside]

end ListQuery.Text.Quoted
