import ListQuery.Proofs.Text.Case
import ListQuery.Proofs.Text.Digit
import ListQuery.Proofs.Text.Pieces
import ListQuery.Proofs.Text.Trim

/-!
# Encodable texts

A text has an encoded form as long as no part of it brings in a surrogate, and neither cutting,
trimming nor the change of letter case does.
-/

namespace ListQuery.Text

/-- A text has an encoded form exactly if all of its code points are characters. -/
theorem isEncodable_iff {text : Text} :
    isEncodable text = true ↔ Within CodePoint.isScalar text :=
  List.all_eq_true

/-- What holds no other code points than an encodable text is encodable. -/
theorem isEncodable_of_subset {text part : Text} (encodable : isEncodable text = true)
    (subset : part ⊆ text) : isEncodable part = true :=
  isEncodable_iff.2 fun c member => isEncodable_iff.1 encodable c (subset member)

/-- A string is encodable. -/
@[simp] theorem isEncodable_of (s : String) : isEncodable (of s) = true := by
  simp [isEncodable, of, CodePoint.isScalar]

/-- A text is encodable exactly if its first code point is a character and the rest is
encodable. -/
@[simp] theorem isEncodable_cons {c : CodePoint} {rest : Text} :
    isEncodable (c :: rest) = (c.isScalar && isEncodable rest) :=
  List.all_cons

/-- Texts that follow each other are encodable exactly if both are. -/
@[simp] theorem isEncodable_append {front back : Text} :
    isEncodable (front ++ back) = (isEncodable front && isEncodable back) :=
  List.all_append

/-- A text in ASCII is encodable. -/
theorem isEncodable_of_ascii {text : Text} (ascii : ∀ c ∈ text, c.toNat < 128) :
    isEncodable text = true := by
  refine isEncodable_iff.2 fun c member => ?_
  have small := ascii c member
  cases c with
  | scalar c => rfl
  | surrogate offset =>
    simp only [CodePoint.toNat] at small
    omega

/-- The digits of a number are encodable. -/
theorem isEncodable_ofNat (value : Nat) : isEncodable (ofNat value) = true := by
  refine isEncodable_of_ascii fun c member => ?_
  have range := isAsciiDigit_iff.1 ((digitRun_ofNat value).digits c member)
  omega

/-- The text of an integer is encodable. -/
theorem isEncodable_ofInt (value : Int) : isEncodable (ofInt value) = true := by
  unfold ofInt
  split
  · simp [isEncodable_ofNat, CodePoint.isScalar]
  · exact isEncodable_ofNat _

/-- A part of a text holds no other code points than the text. -/
theorem subset_of_mem_pieces {separator : CodePoint} {text part : Text}
    (member : part ∈ pieces separator text) : part ⊆ text := by
  induction text generalizing part with
  | nil =>
    cases List.mem_singleton.1 member
    exact List.Subset.refl _
  | cons c rest ih =>
    rw [pieces] at member
    split at member
    · rcases List.mem_cons.1 member with rfl | later
      · exact List.nil_subset _
      · exact List.subset_cons_of_subset c (ih later)
    · obtain ⟨head, tail, parts⟩ := List.exists_cons_of_ne_nil (pieces_ne_nil separator rest)
      rw [parts] at member ih
      rcases List.mem_cons.1 member with rfl | later
      · exact List.cons_subset_cons c (ih List.mem_cons_self)
      · exact List.subset_cons_of_subset c (ih (List.mem_cons_of_mem head later))

/-- All texts have an encoded form. -/
def AllEncodable (texts : List Text) : Prop :=
  ∀ text ∈ texts, isEncodable text = true

/-- Encodable parts of a text make up an encodable text. -/
theorem isEncodable_join {separator : Text} {parts : List Text}
    (between : isEncodable separator = true) (encodable : AllEncodable parts) :
    isEncodable (join separator parts) = true := by
  induction parts with
  | nil => rfl
  | cons first rest ih =>
    obtain ⟨isFirst, others⟩ := List.forall_mem_cons.1 encodable
    cases rest with
    | nil => simpa [join] using isFirst
    | cons next rest =>
      have behind := ih others
      rw [join] at behind ⊢
      simp [isFirst, between, behind]

/-! ## Letter case -/

/-- The code point of a number outside the surrogates is a character. -/
theorem isScalar_ofNat {n : Nat} (outside : n < 0xD800 ∨ 0xE000 ≤ n) :
    (CodePoint.ofNat n).isScalar = true := by
  have noSurrogate : ¬ (0xD800 ≤ n ∧ n < 0xE000) := by omega
  simp [CodePoint.ofNat, noSurrogate, CodePoint.isScalar]

/-- Case data lead to no surrogate. -/
def CharactersOnly (expansions : List (Nat × List Nat)) (runs : List CaseRun) : Prop :=
  (∀ expansion ∈ expansions, ∀ n ∈ expansion.2, n < 0xD800 ∨ 0xE000 ≤ n) ∧
    ∀ run ∈ runs, run.last + run.offset < 0xD800 ∨ 0xE000 ≤ run.first + run.offset

/-- The data of lower case lead to no surrogate. -/
theorem charactersOnly_lower : CharactersOnly lowerExpansions lowerRuns := by
  unfold CharactersOnly
  decide +kernel

/-- Case data without surrogates map a character to characters. -/
theorem isEncodable_mapCase {expansions : List (Nat × List Nat)} {runs : List CaseRun}
    {c : CodePoint} (data : CharactersOnly expansions runs) (character : c.isScalar = true) :
    isEncodable (mapCase expansions runs c) = true := by
  have mapped := mapped_mapCase expansions runs c
  generalize mapCase expansions runs c = image at mapped ⊢
  cases mapped with
  | expanded listed =>
    refine isEncodable_iff.2 fun d member => ?_
    obtain ⟨n, isImage, rfl⟩ := List.mem_map.1 member
    exact isScalar_ofNat (data.1 _ listed n isImage)
  | @shifted run n listed image =>
    have outside := data.2 run listed
    obtain ⟨inside, isImage⟩ := CaseRun.image?_eq_some_iff.1 image
    have scalar : (CodePoint.ofNat n).isScalar = true := isScalar_ofNat (by omega)
    simpa [isEncodable] using scalar
  | kept => simpa [isEncodable] using character

/-- The lower case of an encodable text is encodable. -/
theorem isEncodable_lower {text : Text} (encodable : isEncodable text = true) :
    isEncodable (lower text) = true := by
  have after : ∀ before, isEncodable (lowerAfter before text) = true := by
    induction text with
    | nil => exact fun before => rfl
    | cons c rest ih =>
      intro before
      simp only [isEncodable_cons, Bool.and_eq_true] at encodable
      rw [lowerAfter, isEncodable_append, ih encodable.2, Bool.and_true]
      split
      · unfold lowerSigma
        split <;> rfl
      · unfold lowerChar
        split
        · cases c with
          | scalar c => rfl
          | surrogate offset => exact absurd encodable.1 (by simp [CodePoint.isScalar])
        · exact isEncodable_mapCase charactersOnly_lower encodable.1
  exact after []

end ListQuery.Text
