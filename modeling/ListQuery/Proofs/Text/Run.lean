import ListQuery.Text.Digit

/-!
# Runs of one character class

A run is a stretch of a text whose code points all belong to a class. Taking the longest run at
the start of a text takes exactly the run that was written there, provided that what follows
does not continue it. The module also tells the character classes of the filter grammar apart.
-/

namespace ListQuery.Text

/-- Every code point of a text belongs to a class. -/
def Within (holds : CodePoint → Bool) (text : Text) : Prop :=
  ∀ c ∈ text, holds c = true

instance (holds : CodePoint → Bool) (text : Text) : Decidable (Within holds text) :=
  inferInstanceAs (Decidable (∀ c ∈ text, holds c = true))

/-- A text does not start with a code point of a class. -/
def StopsAt (holds : CodePoint → Bool) (text : Text) : Prop :=
  ∀ c ∈ text.head?, holds c = false

section

variable {holds : CodePoint → Bool}

@[simp] theorem within_nil : Within holds [] := by
  simp [Within]

@[simp] theorem within_cons {c : CodePoint} {text : Text} :
    Within holds (c :: text) ↔ holds c = true ∧ Within holds text := by
  simp [Within]

/-- Two texts are of a class together exactly if each of them is. -/
theorem within_append {front back : Text} :
    Within holds (front ++ back) ↔ Within holds front ∧ Within holds back :=
  List.forall_mem_append

@[simp] theorem stopsAt_nil : StopsAt holds [] := by
  simp [StopsAt]

@[simp] theorem stopsAt_cons {c : CodePoint} {text : Text} :
    StopsAt holds (c :: text) ↔ holds c = false := by
  simp [StopsAt]

/-- A run holds no code point outside its class. -/
theorem Within.not_mem {text : Text} {c : CodePoint} (inside : Within holds text)
    (outside : holds c = false) : c ∉ text :=
  fun found => Bool.eq_false_iff.1 outside (inside c found)

/-- One code point of a class again and again is of that class. -/
theorem within_replicate {c : CodePoint} (inside : holds c = true) (count : Nat) :
    Within holds (List.replicate count c) := by
  intro d member
  rw [List.eq_of_mem_replicate member, inside]

/-- The longest run at the start is the one that was written there. -/
theorem takeWhile_run {run rest : Text} (inside : Within holds run)
    (boundary : StopsAt holds rest) : (run ++ rest).takeWhile holds = run := by
  rw [List.takeWhile_append_of_pos inside]
  cases rest with
  | nil => simp
  | cons c rest => simp [stopsAt_cons.1 boundary]

/-- What the longest run at the start leaves is what was written behind it. -/
theorem dropWhile_run {run rest : Text} (inside : Within holds run)
    (boundary : StopsAt holds rest) : (run ++ rest).dropWhile holds = rest := by
  rw [List.dropWhile_append_of_pos inside]
  cases rest with
  | nil => simp
  | cons c rest => simp [stopsAt_cons.1 boundary]

/-- The longest run at the start of a text is a run. -/
theorem within_takeWhile (text : Text) : Within holds (text.takeWhile holds) :=
  fun _ member => List.all_eq_true.1 List.all_takeWhile _ member

/-- The longest run at the start of a text is not continued behind it. -/
theorem stopsAt_dropWhile (text : Text) : StopsAt holds (text.dropWhile holds) := by
  intro c first
  have outside := List.head?_dropWhile_not holds text
  rw [Option.mem_def.1 first] at outside
  exact outside

/-- Nothing is dropped from the front of a text that starts outside the class. -/
theorem dropWhile_of_stopsAt {text : Text} (boundary : StopsAt holds text) :
    text.dropWhile holds = text := by
  simpa using dropWhile_run within_nil boundary

/-- A text without code points of the class starts with none. -/
theorem stopsAt_of_forall {text : Text} (outside : ∀ c ∈ text, holds c = false) :
    StopsAt holds text :=
  fun c first => outside c (List.mem_of_mem_head? first)

/-- A text that does not start in a class does not start in a part of it. -/
theorem StopsAt.mono {part : CodePoint → Bool} {text : Text} (stops : StopsAt holds text)
    (inside : ∀ c, part c = true → holds c = true) : StopsAt part text := fun c first =>
  Bool.eq_false_iff.2 fun held => Bool.eq_false_iff.1 (stops c first) (inside c held)

/-- With something else behind its front, a text still starts outside the class if that does. -/
theorem StopsAt.append {front rest other : Text} (stops : StopsAt holds (front ++ rest))
    (stopsToo : StopsAt holds other) : StopsAt holds (front ++ other) := by
  cases front with
  | nil => exact stopsToo
  | cons c front => exact stopsAt_cons.2 (stopsAt_cons.1 stops)

/-- A text that is no run as a whole has a first code point outside the class. -/
theorem exists_outside {text : Text} (mixed : ¬ Within holds text) :
    ∃ c after, text.dropWhile holds = c :: after ∧ holds c = false := by
  cases rest : text.dropWhile holds with
  | nil =>
    have whole := @List.takeWhile_append_dropWhile _ holds text
    rw [rest, List.append_nil] at whole
    exact absurd (whole ▸ within_takeWhile text) mixed
  | cons c after =>
    exact ⟨c, after, rfl, stopsAt_cons.1 (rest ▸ stopsAt_dropWhile text)⟩

end

/-- The digits by number. -/
theorem isAsciiDigit_iff {c : CodePoint} :
    isAsciiDigit c = true ↔ 48 ≤ c.toNat ∧ c.toNat ≤ 57 := by
  simp [isAsciiDigit]

/-- The word characters by number. -/
theorem isWordChar_iff {c : CodePoint} :
    isWordChar c = true ↔ (65 ≤ c.toNat ∧ c.toNat ≤ 90 ∨ 97 ≤ c.toNat ∧ c.toNat ≤ 122) ∨
      (48 ≤ c.toNat ∧ c.toNat ≤ 57) ∨ c.toNat = 95 := by
  have underscore : c = CodePoint.scalar '_' ↔ c.toNat = 95 :=
    (CodePoint.toNat_inj (b := .scalar '_')).symm
  simp [isWordChar, isAsciiLetter, isAsciiDigit, underscore, or_assoc]

/-- The ASCII blanks by number. -/
theorem isAsciiBlank_iff {c : CodePoint} :
    isAsciiBlank c = true ↔ c.toNat = 32 ∨ 9 ≤ c.toNat ∧ c.toNat ≤ 13 := by
  simp [isAsciiBlank]

/-- A digit is a word character. -/
theorem isWordChar_of_isAsciiDigit {c : CodePoint} (digit : isAsciiDigit c = true) :
    isWordChar c = true :=
  isWordChar_iff.2 (.inr (.inl (isAsciiDigit_iff.1 digit)))

/-- A word character is no blank. -/
theorem isAsciiBlank_of_isWordChar {c : CodePoint} (word : isWordChar c = true) :
    isAsciiBlank c = false := by
  rw [← Bool.not_eq_true, isAsciiBlank_iff]
  rw [isWordChar_iff] at word
  omega

/-- A space is a run of ASCII blanks. -/
theorem within_space : Within isAsciiBlank [.scalar ' '] := by
  decide

/-- A nonempty run of ASCII digits. -/
structure DigitRun (text : Text) : Prop where
  nonempty : text ≠ []
  digits : Within isAsciiDigit text

/-- A run of digits starts with a digit. -/
theorem DigitRun.head {text : Text} (run : DigitRun text) (rest : Text) :
    ∃ c ∈ (text ++ rest).head?, isAsciiDigit c = true := by
  cases text with
  | nil => exact absurd rfl run.nonempty
  | cons c text => exact ⟨c, by simp, (within_cons.1 run.digits).1⟩

/-- A text that starts with a run of digits has a digit for its first code point. -/
theorem DigitRun.exists_cons {text : Text} (run : DigitRun text) (rest : Text) :
    ∃ c after, text ++ rest = c :: after ∧ isAsciiDigit c = true := by
  obtain ⟨c, first, digit⟩ := run.head rest
  obtain ⟨after, same⟩ := List.head?_eq_some_iff.1 first
  exact ⟨c, after, same, digit⟩

/-- A digit again and again is a run of digits. -/
theorem DigitRun.replicate {c : CodePoint} {count : Nat} (digit : isAsciiDigit c = true)
    (positive : 0 < count) : DigitRun (List.replicate count c) where
  nonempty := by simpa using Nat.ne_of_gt positive
  digits := within_replicate digit count

/-- More digits behind a run of digits make it a longer one. -/
theorem DigitRun.append {front back : Text} (run : DigitRun front)
    (inside : Within isAsciiDigit back) : DigitRun (front ++ back) where
  nonempty := by simp [run.nonempty]
  digits := within_append.2 ⟨run.digits, inside⟩

/-- A code point outside a class is not one inside it. -/
theorem ne_of_class {holds : CodePoint → Bool} {c d : CodePoint} (inside : holds c = true)
    (outside : holds d = false) : c ≠ d := by
  rintro rfl
  simp [inside] at outside

end ListQuery.Text
