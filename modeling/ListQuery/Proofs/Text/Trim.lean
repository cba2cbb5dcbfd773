import ListQuery.Proofs.Text.Run
import ListQuery.Text.Blank

/-!
# Trimming

Trimming takes blanks from both ends of a text and nothing else, so a text without blanks at its
ends stays as it is, and trimming twice is trimming once.
-/

namespace ListQuery.Text

/-- A text neither starts nor ends with a code point of a class. -/
structure Bare (holds : CodePoint → Bool) (text : Text) : Prop where
  front : StopsAt holds text
  back : StopsAt holds text.reverse

section

variable {holds : CodePoint → Bool}

/-- A text without code points of the class has none at its ends. -/
theorem Bare.of_forall {text : Text} (outside : ∀ c ∈ text, holds c = false) :
    Bare holds text where
  front := stopsAt_of_forall outside
  back := stopsAt_of_forall fun c member => outside c (List.mem_reverse.1 member)

/-- Nothing is dropped from the ends of a bare text. -/
theorem Bare.dropTrailing_dropWhile {text : Text} (bare : Bare holds text) :
    dropTrailing holds (text.dropWhile holds) = text := by
  rw [dropWhile_of_stopsAt bare.front, dropTrailing, dropWhile_of_stopsAt bare.back,
    List.reverse_reverse]

/-- What is dropped from the end of a text is a run. -/
theorem exists_eq_dropTrailing_append (holds : CodePoint → Bool) (text : Text) :
    ∃ run, text = dropTrailing holds text ++ run ∧ Within holds run := by
  refine ⟨(text.reverse.takeWhile holds).reverse, ?_, ?_⟩
  · rw [dropTrailing, ← List.reverse_append, List.takeWhile_append_dropWhile,
      List.reverse_reverse]
  · intro c member
    exact within_takeWhile _ c (List.mem_reverse.1 member)

/-- What is left after dropping from the end does not end in the class. -/
theorem stopsAt_reverse_dropTrailing (text : Text) :
    StopsAt holds (dropTrailing holds text).reverse := by
  rw [dropTrailing, List.reverse_reverse]
  exact stopsAt_dropWhile text.reverse

/-- A first code point outside the class is never dropped from the end. -/
theorem dropTrailing_cons {c : CodePoint} {rest : Text} (outside : holds c = false) :
    dropTrailing holds (c :: rest) = c :: dropTrailing holds rest := by
  rw [dropTrailing, List.reverse_cons, List.dropWhile_append]
  split
  · rename_i empty
    rw [List.isEmpty_iff] at empty
    simp [dropTrailing, empty, outside]
  · simp [dropTrailing]

/-- Dropping from the end leaves the first code point in place, unless it drops everything. -/
theorem StopsAt.dropTrailing {text : Text} (boundary : StopsAt holds text) :
    StopsAt holds (dropTrailing holds text) := by
  obtain ⟨run, same, -⟩ := exists_eq_dropTrailing_append holds text
  intro c first
  refine boundary c ?_
  rw [same, List.head?_append, Option.mem_def.1 first]
  rfl

/-- A text is what dropping from its ends leaves, between two runs of the class. -/
theorem exists_eq_append_inside_append (holds : CodePoint → Bool) (text : Text) :
    ∃ front back, text = front ++ Text.dropTrailing holds (text.dropWhile holds) ++ back ∧
      Within holds front ∧ Within holds back := by
  obtain ⟨back, same, inside⟩ := exists_eq_dropTrailing_append holds (text.dropWhile holds)
  refine ⟨text.takeWhile holds, back, ?_, within_takeWhile text, inside⟩
  rw [List.append_assoc, ← same, List.takeWhile_append_dropWhile]

/-- Dropping from the ends of a bare text between two runs of the class leaves that text. -/
theorem Bare.dropTrailing_dropWhile_append {front text back : Text} (bare : Bare holds text)
    (isFront : Within holds front) (isBack : Within holds back) :
    Text.dropTrailing holds ((front ++ text ++ back).dropWhile holds) = text := by
  rw [List.append_assoc, List.dropWhile_append_of_pos isFront]
  cases text with
  | nil =>
    have nothing : back.dropWhile holds = [] := by
      simpa using dropWhile_run isBack (@stopsAt_nil holds)
    simp [Text.dropTrailing, nothing]
  | cons c text =>
    have start : StopsAt holds (c :: text ++ back) := by simpa using bare.front
    have behind : Within holds back.reverse :=
      fun d member => isBack d (List.mem_reverse.1 member)
    rw [dropWhile_of_stopsAt start, Text.dropTrailing, List.reverse_append,
      dropWhile_run behind bare.back, List.reverse_reverse]

end

/-- A bare text is left alone by trimming. -/
theorem trim_of_bare {text : Text} (bare : Bare isBlank text) : trim text = text :=
  bare.dropTrailing_dropWhile

/-- A run of digits is bare. -/
theorem DigitRun.bare {digits : Text} (run : DigitRun digits) : Bare isBlank digits := by
  refine .of_forall fun c member => ?_
  have digit := isAsciiDigit_iff.1 (run.digits c member)
  simp [isBlank]
  omega

/-- A trimmed text is bare. -/
theorem bare_trim (text : Text) : Bare isBlank (trim text) where
  front := (stopsAt_dropWhile text).dropTrailing
  back := stopsAt_reverse_dropTrailing _

/-- Trimming twice is trimming once. -/
@[simp] theorem trim_trim (text : Text) : trim (trim text) = trim text :=
  trim_of_bare (bare_trim text)

/-- A text is its trimmed form between two runs of blanks. -/
theorem exists_eq_append_trim_append (text : Text) :
    ∃ front back, text = front ++ trim text ++ back ∧ Within isBlank front ∧
      Within isBlank back :=
  exists_eq_append_inside_append isBlank text

/-- Blanks around a bare text are trimmed. -/
theorem trim_spaced {front text back : Text} (isFront : Within isBlank front)
    (bare : Bare isBlank text) (isBack : Within isBlank back) :
    trim (front ++ text ++ back) = text :=
  bare.dropTrailing_dropWhile_append isFront isBack

/-- Trimming never makes a text longer. -/
theorem length_trim_le (text : Text) : (trim text).length ≤ text.length := by
  obtain ⟨front, back, same, -, -⟩ := exists_eq_append_trim_append text
  have whole := congrArg List.length same
  rw [List.length_append, List.length_append] at whole
  omega

/-- Trimming brings no code point in. -/
theorem mem_of_mem_trim {text : Text} {c : CodePoint} (member : c ∈ trim text) : c ∈ text := by
  obtain ⟨front, back, same, -, -⟩ := exists_eq_append_trim_append text
  rw [same]
  exact List.mem_append_left _ (List.mem_append_right _ member)

end ListQuery.Text
