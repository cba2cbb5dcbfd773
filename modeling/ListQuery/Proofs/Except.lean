import Mathlib.Data.List.Forall2

/-!
# Outcomes of readers

A reader ends in a value or in an error. The lemmas take a successful sequence of readers apart
into its steps.
-/

namespace ListQuery

variable {ε α β γ : Type}

/-- A transformed outcome is a value exactly if the outcome was one. -/
theorem map_eq_ok_iff {outcome : Except ε α} {f : α → β} {b : β} :
    outcome.map f = .ok b ↔ ∃ a, outcome = .ok a ∧ f a = b := by
  cases outcome <;> simp [Except.map]

/-- A transformed outcome is an error exactly if the outcome was that error. -/
theorem map_eq_error_iff {outcome : Except ε α} {f : α → β} {e : ε} :
    outcome.map f = .error e ↔ outcome = .error e := by
  cases outcome <;> simp [Except.map]

/-- A sequence succeeds exactly if both of its steps do. -/
theorem bind_eq_ok_iff {outcome : Except ε α} {next : α → Except ε β} {b : β} :
    (outcome >>= next) = .ok b ↔ ∃ a, outcome = .ok a ∧ next a = .ok b := by
  cases outcome <;> simp [bind, Except.bind]

/-- A sequence fails exactly if its first step does, or the second one after it. -/
theorem bind_eq_error_iff {outcome : Except ε α} {next : α → Except ε β} {e : ε} :
    (outcome >>= next) = .error e ↔
      outcome = .error e ∨ ∃ a, outcome = .ok a ∧ next a = .error e := by
  cases outcome <;> simp [bind, Except.bind]

/-- Reading a list of sources reads the first one and then the others. -/
theorem mapM_cons_eq_ok_iff {f : α → Except ε β} {a : α} {as : List α} {bs : List β} :
    (a :: as).mapM f = .ok bs ↔
      ∃ b rest, f a = .ok b ∧ as.mapM f = .ok rest ∧ bs = b :: rest := by
  rw [List.mapM_cons, bind_eq_ok_iff]
  constructor
  · rintro ⟨b, first, others⟩
    obtain ⟨rest, readRest, same⟩ := bind_eq_ok_iff.1 others
    cases same
    exact ⟨b, rest, first, readRest, rfl⟩
  · rintro ⟨b, rest, first, others, rfl⟩
    exact ⟨b, first, bind_eq_ok_iff.2 ⟨rest, others, rfl⟩⟩

/-- Reading two lists of sources one after the other reads each of them. -/
theorem mapM_append_eq_ok_iff {f : α → Except ε β} {front back : List α} {bs : List β} :
    (front ++ back).mapM f = .ok bs ↔
      ∃ left right, front.mapM f = .ok left ∧ back.mapM f = .ok right ∧ bs = left ++ right := by
  rw [List.mapM_append, bind_eq_ok_iff]
  constructor
  · rintro ⟨left, first, others⟩
    obtain ⟨right, readRight, same⟩ := bind_eq_ok_iff.1 others
    cases same
    exact ⟨left, right, first, readRight, rfl⟩
  · rintro ⟨left, right, first, others, rfl⟩
    exact ⟨left, first, bind_eq_ok_iff.2 ⟨right, others, rfl⟩⟩

/-- A list of sources is read exactly if each source is. -/
theorem mapM_eq_ok_iff {f : α → Except ε β} {as : List α} {bs : List β} :
    as.mapM f = .ok bs ↔ List.Forall₂ (fun a b => f a = .ok b) as bs := by
  induction as generalizing bs with
  | nil =>
    rw [List.forall₂_nil_left_iff, List.mapM_nil]
    exact ⟨fun same => (Except.ok.inj same).symm, fun same => congrArg Except.ok same.symm⟩
  | cons a as ih =>
    simp only [List.forall₂_cons_left_iff, mapM_cons_eq_ok_iff, ih]

/-- Values are found for a list of sources exactly if one is found for each. -/
theorem mapM_eq_some_iff {f : α → Option β} {as : List α} {bs : List β} :
    as.mapM f = some bs ↔ List.Forall₂ (fun a b => f a = some b) as bs := by
  induction as generalizing bs with
  | nil =>
    rw [List.forall₂_nil_left_iff, List.mapM_nil]
    exact ⟨fun same => (Option.some.inj same).symm, fun same => congrArg some same.symm⟩
  | cons a as ih =>
    rw [List.forall₂_cons_left_iff, List.mapM_cons]
    constructor
    · intro found
      obtain ⟨b, first, found⟩ := Option.bind_eq_some_iff.1 found
      obtain ⟨rest, others, same⟩ := Option.bind_eq_some_iff.1 found
      exact ⟨b, rest, first, ih.1 others, (Option.some.inj same).symm⟩
    · rintro ⟨b, rest, first, others, rfl⟩
      rw [first, ih.2 others]
      rfl

/-- As many values are read as there are sources. -/
theorem length_of_mapM {f : α → Except ε β} {as : List α} {bs : List β}
    (read : as.mapM f = .ok bs) : bs.length = as.length := by
  induction as generalizing bs with
  | nil =>
    cases read
    rfl
  | cons a as ih =>
    obtain ⟨b, rest, -, others, rfl⟩ := mapM_cons_eq_ok_iff.1 read
    simp [ih others]

/-- An outcome is an error that meets one condition, or a value that meets another. -/
inductive Meets (failure : ε → Prop) (value : α → Prop) : Except ε α → Prop where
  | error {e : ε} (met : failure e) : Meets failure value (.error e)
  | ok {a : α} (met : value a) : Meets failure value (.ok a)

namespace Meets

variable {failure : ε → Prop} {value : α → Prop} {later : β → Prop} {outcome : Except ε α}

/-- An error meets the condition on errors. -/
theorem of_error {e : ε} (meets : Meets failure value outcome) (failed : outcome = .error e) :
    failure e := by
  cases meets with
  | error met => exact Except.error.inj failed ▸ met
  | ok met => cases failed

/-- A value meets the condition on values. -/
theorem of_ok {a : α} (meets : Meets failure value outcome) (found : outcome = .ok a) :
    value a := by
  cases meets with
  | error met => cases found
  | ok met => exact Except.ok.inj found ▸ met

/-- An outcome that meets conditions meets weaker ones. -/
theorem imp {weaker : ε → Prop} {other : α → Prop} (meets : Meets failure value outcome)
    (errors : ∀ e, failure e → weaker e) (values : ∀ a, value a → other a) :
    Meets weaker other outcome := by
  cases meets with
  | error met => exact .error (errors _ met)
  | ok met => exact .ok (values _ met)

/-- A sequence meets a condition if its second step does after every value that the first may end
in. -/
theorem bind {next : α → Except ε β} (first : Meets failure value outcome)
    (rest : ∀ a, value a → Meets failure later (next a)) :
    Meets failure later (outcome >>= next) := by
  cases first with
  | error met => exact .error met
  | ok met => exact rest _ met

/-- A transformed outcome meets a condition that the transformed values meet. -/
theorem map {f : α → β} (meets : Meets failure value outcome)
    (values : ∀ a, value a → later (f a)) : Meets failure later (outcome.map f) := by
  cases meets with
  | error met => exact .error met
  | ok met => exact .ok (values _ met)

/-- An outcome whose errors are transformed meets a condition that the transformed errors meet. -/
theorem mapError {ζ : Type} {f : ε → ζ} {other : ζ → Prop} (meets : Meets failure value outcome)
    (errors : ∀ e, failure e → other (f e)) : Meets other value (outcome.mapError f) := by
  cases meets with
  | error met => exact .error (errors _ met)
  | ok met => exact .ok met

/-- What is read from a list of sources meets a condition if what is read from each of them
does. -/
theorem mapM {f : α → Except ε β} {as : List α} (each : ∀ a ∈ as, Meets failure later (f a)) :
    Meets failure (fun bs => ∀ b ∈ bs, later b) (as.mapM f) := by
  induction as with
  | nil => exact .ok (by simp)
  | cons a as ih =>
    obtain ⟨first, others⟩ := List.forall_mem_cons.1 each
    rw [List.mapM_cons]
    exact first.bind fun b met => (ih others).bind fun bs rest =>
      .ok (List.forall_mem_cons.2 ⟨met, rest⟩)

end Meets

/-- Sources are read, and what is read is read again, exactly if each source is read twice. -/
theorem mapM_mapM_eq_ok_iff {f : α → Except ε β} {g : β → Except ε γ} {as : List α}
    {cs : List γ} :
    (as.mapM f >>= fun bs => bs.mapM g) = .ok cs ↔
      List.Forall₂ (fun a c => (f a >>= g) = .ok c) as cs := by
  induction as generalizing cs with
  | nil =>
    rw [List.forall₂_nil_left_iff]
    constructor
    · intro read
      cases read
      rfl
    · intro empty
      cases empty
      rfl
  | cons a as ih =>
    rw [List.forall₂_cons_left_iff]
    constructor
    · intro read
      obtain ⟨_, readAll, readAgain⟩ := bind_eq_ok_iff.1 read
      obtain ⟨b, bs, first, others, rfl⟩ := mapM_cons_eq_ok_iff.1 readAll
      obtain ⟨c, rest, again, othersAgain, rfl⟩ := mapM_cons_eq_ok_iff.1 readAgain
      exact ⟨c, rest, bind_eq_ok_iff.2 ⟨b, first, again⟩,
        ih.1 (bind_eq_ok_iff.2 ⟨bs, others, othersAgain⟩), rfl⟩
    · rintro ⟨c, rest, first, others, rfl⟩
      obtain ⟨b, isFirst, again⟩ := bind_eq_ok_iff.1 first
      obtain ⟨bs, areOthers, othersAgain⟩ := bind_eq_ok_iff.1 (ih.2 others)
      have readAll := mapM_cons_eq_ok_iff.2 ⟨b, bs, isFirst, areOthers, rfl⟩
      have readAgain := mapM_cons_eq_ok_iff.2 ⟨c, rest, again, othersAgain, rfl⟩
      apply bind_eq_ok_iff.2
      exact ⟨b :: bs, readAll, readAgain⟩

end ListQuery
