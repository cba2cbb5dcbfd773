import Mathlib.Algebra.Group.Nat.Even
import ListQuery.Proofs.Filter.Literal
import ListQuery.Proofs.Text.Replacement

/-!
# String literals and the texts they quote

Texts and string literals belong to each other one to one. A token is a string literal exactly if
it stands in quotes and every run of quotes inside is of even length, so that the run is made of
doubled quotes, also where it touches the outer ones.
-/

namespace ListQuery.Text.Quoted

/-- Every run of quotes in a text, taken as far as it goes on both sides, is of even length. -/
def RunsEven (text : Text) : Prop :=
  ∀ before count after, text = before ++ (List.replicate count quote ++ after) →
    before.getLast? ≠ some quote → after.head? ≠ some quote → Even count

/-- A text without code points has even runs. -/
theorem runsEven_nil : RunsEven [] := by
  intro before count after same _ _
  have nothing : count = 0 := by simp_all
  simp [nothing]

/-- A code point that is no quote belongs to no run. -/
theorem runsEven_cons_of_ne {c : CodePoint} (plain : c ≠ quote) {rest : Text} :
    RunsEven (c :: rest) ↔ RunsEven rest := by
  constructor
  · intro even before count after same front back
    refine even (c :: before) count after (by rw [same]; rfl) ?_ back
    cases before with
    | nil => simpa using plain
    | cons d before => simpa using front
  · intro even before count after same front back
    cases before with
    | nil =>
      cases count with
      | zero => simp
      | succ count => simp [List.replicate_succ, plain] at same
    | cons d before =>
      refine even before count after (List.cons.inj same).2 ?_ back
      cases before with
      | nil => simp
      | cons e before => simpa using front

/-- A pair of quotes at the start does not change whether every run is even. -/
theorem runsEven_pair {rest : Text} : RunsEven (quote :: quote :: rest) ↔ RunsEven rest := by
  constructor
  · intro even before count after same front back
    cases before with
    | nil =>
      have longer : Even (count + 2) :=
        even [] (count + 2) after (by simp [same, List.replicate_succ]) (by simp) back
      rw [Nat.even_iff] at longer ⊢
      omega
    | cons d before =>
      exact even (quote :: quote :: d :: before) count after (by simp [same])
        (by simpa using front) back
  · intro even before count after same front back
    match before, count with
    | [], 0 => simp
    | [], 1 =>
      obtain rfl : quote :: rest = after := by simpa using same
      simp at back
    | [], count + 2 =>
      have shorter : Even count :=
        even [] count after (by simpa [List.replicate_succ] using same) (by simp) back
      rw [Nat.even_iff] at shorter ⊢
      omega
    | [d], count =>
      obtain ⟨rfl, -⟩ := List.cons.inj same
      simp at front
    | d :: e :: before, count =>
      refine even before count after (by simpa using (List.cons.inj (List.cons.inj same).2).2) ?_
        back
      cases before with
      | nil => simp
      | cons f before => simpa using front

/-- A quote at the start that no quote follows is an odd run. -/
theorem not_runsEven_of_lone {rest : Text} (lone : rest.head? ≠ some quote) :
    ¬ RunsEven (quote :: rest) := by
  intro even
  have one : Even 1 := even [] 1 rest rfl (by simp) lone
  exact absurd one (by decide)

/-- Deleting the pairs from left to right leaves no quote exactly if every run is even. -/
theorem quote_not_mem_replacePairs_iff {text : Text} :
    quote ∉ replacePairs [] text ↔ RunsEven text := by
  fun_induction replacePairs [] text with
  | case1 => simpa using runsEven_nil
  | case2 c =>
    by_cases isQuote : c = quote
    · subst isQuote
      simpa using @not_runsEven_of_lone [] (by simp)
    · rw [runsEven_cons_of_ne isQuote]
      simpa [Ne.symm isQuote] using runsEven_nil
  | case3 c d rest pair ih =>
    obtain ⟨rfl, rfl⟩ := pair
    rw [List.nil_append, ih, runsEven_pair]
  | case4 c d rest apart ih =>
    by_cases isQuote : c = quote
    · subst isQuote
      have lone : (d :: rest).head? ≠ some quote := by simpa using apart
      simpa using not_runsEven_of_lone lone
    · rw [List.mem_cons, not_or, ih, runsEven_cons_of_ne isQuote]
      exact and_iff_right (Ne.symm isQuote)

end ListQuery.Text.Quoted

namespace ListQuery.Filter.Literal

open Text.Quoted

/-- A token is a string literal exactly if it stands in quotes and deleting the pairs of quotes
inside leaves none; the literal has the token for its source, and what halving the pairs gives for
its value. -/
theorem ofToken?_eq_string_iff_replacePairs {token raw value : Text} :
    ofToken? token = some (.string raw value) ↔
      raw = token ∧ ∃ inner, token = quote :: (inner ++ [quote]) ∧
        quote ∉ replacePairs [] inner ∧ replacePairs [quote] inner = value := by
  rw [ofToken?_eq_string_iff, ← decode_eq_some_iff, decode_eq_some_iff_replacePairs]
  exact and_comm

/-- Texts and string literals belong to each other one to one. The quoted form of a text is a
string literal with that text for its value, and every string literal is the quoted form of its
value, which one pass over the pairs of quotes inside accepts and another one reads. So tokens with
one value are equal, and a token is a string literal exactly if it stands in quotes and has only
even runs of quotes inside. -/
theorem strings_biject_with_texts :
    (∀ value, ofToken? (encode value) = some (.string (encode value) value)) ∧
    (∀ token raw value, ofToken? token = some (.string raw value) →
      raw = token ∧ token = encode value ∧
        ∃ inner, token = quote :: (inner ++ [quote]) ∧ quote ∉ replacePairs [] inner ∧
          replacePairs [quote] inner = value) ∧
    (∀ token other raw otherRaw value, ofToken? token = some (.string raw value) →
      ofToken? other = some (.string otherRaw value) → token = other) ∧
    ∀ token, (∃ raw value, ofToken? token = some (.string raw value)) ↔
      ∃ inner, token = quote :: (inner ++ [quote]) ∧ RunsEven inner := by
  refine ⟨ofToken?_encode, ?_, ?_, ?_⟩
  · intro token raw value read
    obtain ⟨same, isQuoted⟩ := ofToken?_eq_string_iff_replacePairs.1 read
    exact ⟨same, (ofToken?_eq_string_iff.1 read).1, isQuoted⟩
  · intro token other raw otherRaw value read readOther
    rw [(ofToken?_eq_string_iff.1 read).1, (ofToken?_eq_string_iff.1 readOther).1]
  · intro token
    simp only [ofToken?_eq_string_iff_replacePairs, quote_not_mem_replacePairs_iff]
    constructor
    · rintro ⟨raw, value, -, inner, isQuoted, even, -⟩
      exact ⟨inner, isQuoted, even⟩
    · rintro ⟨inner, isQuoted, even⟩
      exact ⟨token, replacePairs [quote] inner, rfl, inner, isQuoted, even, rfl⟩

/-- Runs of two and of four quotes touch the outer ones of this literal. A run of three quotes makes
a token no string. -/
theorem strings_biject_with_texts_touching :
    ofToken? "'''O''''B'''" = some (.string "'''O''''B'''" "'O''B'") ∧
      ¬ ∃ raw value, ofToken? "'O'''B'" = some (.string raw value) := by
  obtain ⟨reads, -, -, characterised⟩ := strings_biject_with_texts
  refine ⟨reads "'O''B'", fun isString => ?_⟩
  obtain ⟨inner, isQuoted, even⟩ := (characterised "'O'''B'").1 isString
  have isInner : inner = "O'''B" :=
    List.append_cancel_right (List.cons.inj isQuoted.symm).2
  have three : Even 3 := even "O" 3 "B" isInner (by decide) (by decide)
  exact absurd three (by decide)

end ListQuery.Filter.Literal
