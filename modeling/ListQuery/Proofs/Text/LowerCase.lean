import Mathlib.Data.List.Forall2
import ListQuery.Proofs.Text.Case
import ListQuery.Proofs.Text.Trim

/-!
# Lower case

What a code point is lowered to is its own lower case (`Lowered`), so lowering a text twice is
lowering it once, although a capital sigma is lowered by what stands around it. No code point but a
blank is lowered to a blank, so a trimmed text stays trimmed.
-/

namespace ListQuery.Text

/-! ## Case data -/

namespace CaseRun

/-- The image of the first code point of a run. -/
def firstImage (run : CaseRun) : Nat :=
  (run.first + run.offset).toNat

/-- The image of the last code point of a run. -/
def lastImage (run : CaseRun) : Nat :=
  (run.last + run.offset).toNat

/-- Whether the range of the images of a run does not hold a number. -/
def misses (run : CaseRun) (n : Nat) : Bool :=
  n.blt run.firstImage || run.lastImage.blt n

/-- Whether the images of a run and the code points of another one are apart: the ranges are, or
the other run takes every second code point and none of the images is one of these. -/
def isApart (run other : CaseRun) : Bool :=
  run.lastImage.blt other.first || other.last.blt run.firstImage ||
    other.step == 2 && (run.step == 2 || run.first == run.last) &&
      (run.firstImage + other.first) % 2 == 1

end CaseRun

/-- The numbers of the capital letters of ASCII. -/
def capitals : List Nat :=
  List.range' 65 26

/-- Whether the images of a run are code points without a lower case of their own, and no
blanks. -/
def CaseRun.isSettled (run : CaseRun) : Bool :=
  0 ≤ run.first + run.offset && run.lastImage < 0x110000 &&
    (capitals ++ lowerExpansions.map Prod.fst ++ blankNumbers).all run.misses &&
    lowerRuns.all run.isApart

/-- The runs of lower case have such images. -/
theorem isSettled_of_lowerRuns : lowerRuns.all CaseRun.isSettled = true := by
  decide +kernel

variable {run other : CaseRun} {n image : Nat}

/-- The images of a run lie between those of its ends, and one of every second code point has the
parity of the first. -/
theorem CaseRun.bounds_of_image? (positive : 0 ≤ run.first + run.offset)
    (isImage : run.image? n = some image) :
    run.firstImage ≤ image ∧ image ≤ run.lastImage ∧
      (run.step = 2 ∨ run.first = run.last → (image - run.firstImage) % 2 = 0) := by
  obtain ⟨⟨least, most, stepped⟩, same⟩ := image?_eq_some_iff.1 isImage
  unfold firstImage lastImage
  refine ⟨by omega, by omega, ?_⟩
  rintro (every | single)
  · rw [every] at stepped
    omega
  · omega

/-- An image of a run that is apart from another one is not mapped by it. -/
theorem CaseRun.image?_eq_none_of_isApart (apart : run.isApart other = true)
    (positive : 0 ≤ run.first + run.offset) (isImage : run.image? n = some image) :
    other.image? image = none := by
  obtain ⟨least, most, parity⟩ := bounds_of_image? positive isImage
  refine Option.eq_none_iff_forall_ne_some.2 fun later isLater => ?_
  obtain ⟨⟨least', most', stepped⟩, -⟩ := image?_eq_some_iff.1 isLater
  simp only [isApart, Bool.or_eq_true, Bool.and_eq_true, Nat.blt_eq, beq_iff_eq] at apart
  rcases apart with (below | above) | ⟨⟨every, steady⟩, odd⟩
  · omega
  · omega
  · have even := parity steady
    rw [every] at stepped
    omega

/-- An image of a run is none of the numbers that its range misses. -/
theorem CaseRun.not_mem_of_misses {numbers : List Nat} (missed : numbers.all run.misses = true)
    (positive : 0 ≤ run.first + run.offset) (isImage : run.image? n = some image) :
    image ∉ numbers := by
  intro member
  obtain ⟨least, most, -⟩ := bounds_of_image? positive isImage
  have outside := List.all_eq_true.1 missed image member
  simp only [misses, Bool.or_eq_true, Nat.blt_eq] at outside
  omega

/-! ## Code points -/

/-- A code point is its own lower case. -/
def IsLower (c : CodePoint) : Prop := lowerChar c = [c]

/-- A code point of ASCII is lowered to one that is its own lower case. -/
theorem isLower_toAsciiLower {c : CodePoint} (ascii : c.toNat < 128) : IsLower c.toAsciiLower := by
  have each : ∀ n < 128, lowerChar (CodePoint.ofNat n).toAsciiLower =
      [(CodePoint.ofNat n).toAsciiLower] := by decide +kernel
  rw [← CodePoint.ofNat_toNat c]
  exact each _ ascii

/-- A code point is its own lower case if its number is no capital letter and the case data do not
map it. -/
theorem isLower_of_unmapped {c : CodePoint} (small : c.toNat ∉ capitals)
    (unexpanded : c.toNat ∉ lowerExpansions.map Prod.fst)
    (unmapped : ∀ run ∈ lowerRuns, run.image? c.toNat = none) : IsLower c := by
  unfold IsLower lowerChar
  split
  · rename_i ascii
    have each : ∀ n < 128, n ∉ capitals → [(CodePoint.ofNat n).toAsciiLower] = [.ofNat n] := by
      decide +kernel
    simpa only [CodePoint.ofNat_toNat] using each _ ascii small
  · have missing : lowerExpansions.lookup c.toNat = none := by
      rw [List.lookup_eq_none_iff]
      rintro ⟨n, expansion⟩ listed
      have other : n ≠ c.toNat := fun same => unexpanded (same ▸ List.mem_map_of_mem listed)
      simpa using other.symm
    have nowhere : lowerRuns.findSome? (·.image? c.toNat) = none :=
      List.findSome?_eq_none_iff.2 unmapped
    simp only [mapCase, missing, nowhere, Option.map_none, Option.getD_none]

/-- A lowered form of a code point: not empty, not to be lowered any further, and no blank unless
the code point is one. -/
structure Lowered (c : CodePoint) (image : Text) : Prop where
  nonempty : image ≠ []
  settled : ∀ d ∈ image, IsLower d
  noBlank : isBlank c = false → ∀ d ∈ image, isBlank d = false

/-- A run of lower case takes a code point to a lowered form. -/
theorem lowered_image {c : CodePoint} (listed : run ∈ lowerRuns)
    (isImage : run.image? c.toNat = some image) : Lowered c [.ofNat image] := by
  have settled := List.all_eq_true.1 isSettled_of_lowerRuns run listed
  simp only [CaseRun.isSettled, Bool.and_eq_true, decide_eq_true_eq, List.all_append] at settled
  obtain ⟨⟨⟨positive, bounded⟩, ⟨small, unexpanded⟩, outside⟩, apart⟩ := settled
  have number : (CodePoint.ofNat image).toNat = image := by
    obtain ⟨-, most, -⟩ := CaseRun.bounds_of_image? positive isImage
    exact CodePoint.toNat_ofNat (by omega)
  refine ⟨List.cons_ne_nil _ _, List.forall_mem_singleton.2 ?_,
    fun _ => List.forall_mem_singleton.2 ?_⟩
  · apply isLower_of_unmapped
    · rw [number]
      exact CaseRun.not_mem_of_misses small positive isImage
    · rw [number]
      exact CaseRun.not_mem_of_misses unexpanded positive isImage
    · intro other isOther
      rw [number]
      exact CaseRun.image?_eq_none_of_isApart (List.all_eq_true.1 apart other isOther) positive
        isImage
  · by_contra blank
    rw [Bool.not_eq_false] at blank
    have found := toNat_mem_blankNumbers blank
    rw [number] at found
    exact CaseRun.not_mem_of_misses outside positive isImage found

/-- The lower case of a code point out of context is a lowered form of it. -/
theorem lowered_lowerChar (c : CodePoint) : Lowered c (lowerChar c) := by
  unfold lowerChar
  split
  · rename_i ascii
    refine ⟨List.cons_ne_nil _ _, List.forall_mem_singleton.2 (isLower_toAsciiLower ascii),
      fun outside => List.forall_mem_singleton.2 ?_⟩
    have each : ∀ n < 128, isBlank (.ofNat n) = false →
        isBlank (CodePoint.ofNat n).toAsciiLower = false := by decide +kernel
    rw [← CodePoint.ofNat_toNat c] at outside ⊢
    exact each _ ascii outside
  · rename_i large
    have mapped := mapped_mapCase lowerExpansions lowerRuns c
    generalize same : mapCase lowerExpansions lowerRuns c = lowered at mapped
    cases mapped with
    | expanded listed =>
      have each : ∀ expansion ∈ lowerExpansions, expansion.2.map CodePoint.ofNat ≠ [] ∧
          ∀ d ∈ expansion.2.map CodePoint.ofNat, lowerChar d = [d] ∧ isBlank d = false := by
        decide +kernel
      obtain ⟨nonempty, settled⟩ := each _ listed
      exact ⟨nonempty, fun d member => (settled d member).1, fun _ d member => (settled d member).2⟩
    | shifted listed isImage => exact lowered_image listed isImage
    | kept =>
      refine ⟨List.cons_ne_nil _ _, List.forall_mem_singleton.2 ?_,
        fun outside => List.forall_mem_singleton.2 outside⟩
      rw [IsLower, lowerChar, if_neg large, same]

/-- Both small sigmas are lowered forms of the capital one. -/
theorem lowered_lowerSigma (before after : Text) : Lowered 'Σ' [lowerSigma before after] := by
  have final : lowerChar 'ς' = ['ς'] ∧ isBlank 'ς' = false := by decide +kernel
  have medial : lowerChar 'σ' = ['σ'] ∧ isBlank 'σ' = false := by decide +kernel
  unfold lowerSigma
  split
  · exact ⟨List.cons_ne_nil _ _, List.forall_mem_singleton.2 final.1,
      fun _ => List.forall_mem_singleton.2 final.2⟩
  · exact ⟨List.cons_ne_nil _ _, List.forall_mem_singleton.2 medial.1,
      fun _ => List.forall_mem_singleton.2 medial.2⟩

/-! ## Texts -/

/-- A text is lowered code point by code point, whatever stands before it. -/
theorem lowerAfter_eq_flatten (before text : Text) :
    ∃ images, List.Forall₂ Lowered text images ∧ lowerAfter before text = images.flatten := by
  induction text generalizing before with
  | nil => exact ⟨[], .nil, rfl⟩
  | cons c rest ih =>
    obtain ⟨images, lowered, same⟩ := ih (c :: before)
    rw [lowerAfter, same]
    split
    · rename_i sigma
      exact ⟨_ :: images, .cons (sigma ▸ lowered_lowerSigma before rest) lowered, rfl⟩
    · exact ⟨_ :: images, .cons (lowered_lowerChar c) lowered, rfl⟩

/-- A text of code points that are their own lower case is its own lower case. -/
theorem lowerAfter_of_isLower {text : Text} (settled : ∀ c ∈ text, IsLower c) (before : Text) :
    lowerAfter before text = text := by
  induction text generalizing before with
  | nil => rfl
  | cons c rest ih =>
    obtain ⟨first, others⟩ := List.forall_mem_cons.1 settled
    have small : c ≠ 'Σ' := by
      rintro rfl
      exact absurd first (by unfold IsLower; decide +kernel)
    rw [lowerAfter, if_neg small, first, ih others, List.singleton_append]

/-- Lowering twice is lowering once. -/
@[simp] theorem lower_lower (text : Text) : lower (lower text) = lower text := by
  obtain ⟨images, lowered, same⟩ := lowerAfter_eq_flatten [] text
  have both := lowered.flip.imp fun image c form => And.intro form.settled form
  obtain ⟨settled, -⟩ := (List.forall₂_and_left _ _).1 both
  refine lowerAfter_of_isLower ?_ []
  rw [lower, same]
  intro d member
  obtain ⟨image, isImage, member⟩ := List.mem_flatten.1 member
  exact settled image isImage d member

/-- What the code points of a text are turned to does not start with a blank unless the text
does. -/
theorem stopsAt_flatten {text : Text} {images : List Text} (stops : StopsAt isBlank text)
    (kept : List.Forall₂ (fun c image => image ≠ [] ∧
      (isBlank c = false → ∀ d ∈ image, isBlank d = false)) text images) :
    StopsAt isBlank images.flatten := by
  cases kept with
  | nil => exact stopsAt_nil
  | @cons c image rest images first =>
    obtain ⟨nonempty, noBlank⟩ := first
    obtain ⟨d, image, rfl⟩ := List.exists_cons_of_ne_nil nonempty
    exact stopsAt_cons.2 (noBlank (stopsAt_cons.1 stops) d List.mem_cons_self)

/-- A bare text has a bare lower case. -/
theorem bare_lower {text : Text} (bare : Bare isBlank text) : Bare isBlank (lower text) := by
  obtain ⟨images, lowered, same⟩ := lowerAfter_eq_flatten [] text
  rw [lower, same]
  have kept := lowered.imp fun c image form => And.intro form.nonempty form.noBlank
  refine ⟨stopsAt_flatten bare.front kept, ?_⟩
  rw [List.reverse_flatten]
  refine stopsAt_flatten bare.back ?_
  rw [List.forall₂_reverse_iff, List.forall₂_map_right_iff]
  exact kept.imp fun c image form => by simpa using form

end ListQuery.Text
