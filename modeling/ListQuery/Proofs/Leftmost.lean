import ListQuery.Proofs.AllowList

/-!
# The leftmost fault

Where several members of a list are at fault, the leftmost one is reported. `Leftmost` says which
member that is, and the lemmas say that readers of a list stop there.
-/

namespace ListQuery

variable {α β ε : Type}

/-- A member of a list is the leftmost one with a property. -/
inductive Leftmost (holds : α → Prop) : List α → α → Prop where
  | here {a : α} {rest : List α} (found : holds a) : Leftmost holds (a :: rest) a
  | later {a b : α} {rest : List α} (other : ¬ holds b) (behind : Leftmost holds rest a) :
      Leftmost holds (b :: rest) a

namespace Leftmost

variable {holds : α → Prop} {as : List α} {a : α}

/-- The leftmost member with a property is a member. -/
theorem mem (leftmost : Leftmost holds as a) : a ∈ as := by
  induction leftmost with
  | here found => exact List.mem_cons_self
  | later other behind ih => exact List.mem_cons_of_mem _ ih

/-- The leftmost member with a property has it. -/
theorem property (leftmost : Leftmost holds as a) : holds a := by
  induction leftmost with
  | here found => exact found
  | later other behind ih => exact ih

/-- There is a leftmost member with a property as soon as a member has it. -/
theorem exists_of_mem (member : a ∈ as) (found : holds a) : ∃ first, Leftmost holds as first := by
  induction as with
  | nil => cases member
  | cons b rest ih =>
    by_cases here : holds b
    · exact ⟨b, .here here⟩
    · have behind : a ∈ rest := by
        refine (List.mem_cons.1 member).resolve_left ?_
        rintro rfl
        exact here found
      obtain ⟨first, leftmost⟩ := ih behind
      exact ⟨first, .later here leftmost⟩

/-- No member of a list has a property, or there is a leftmost one that has it. -/
theorem none_or_exists (holds : α → Prop) (as : List α) :
    (∀ a ∈ as, ¬ holds a) ∨ ∃ first, Leftmost holds as first := by
  by_cases found : ∃ a ∈ as, holds a
  · obtain ⟨a, member, here⟩ := found
    exact .inr (exists_of_mem member here)
  · exact .inl fun a member here => found ⟨a, member, here⟩

/-- A property of images is one of the members that they belong to. -/
theorem map {f : α → β} {holds : β → Prop} (leftmost : Leftmost (fun a => holds (f a)) as a) :
    Leftmost holds (as.map f) (f a) := by
  induction leftmost with
  | here found => exact .here found
  | later other behind ih => exact .later other ih

end Leftmost

/-- A list of sources is read if each of them is. -/
theorem exists_mapM_of_forall {f : α → Except ε β} {as : List α}
    (reads : ∀ a ∈ as, ∃ b, f a = .ok b) : ∃ bs, as.mapM f = .ok bs := by
  induction as with
  | nil => exact ⟨[], rfl⟩
  | cons a as ih =>
    obtain ⟨⟨b, first⟩, others⟩ := List.forall_mem_cons.1 reads
    obtain ⟨bs, rest⟩ := ih others
    exact ⟨b :: bs, mapM_cons_eq_ok_iff.2 ⟨b, bs, first, rest, rfl⟩⟩

/-- Reading a list of sources fails where the leftmost of them cannot be read. -/
theorem mapM_eq_error_of_leftmost {f : α → Except ε β} {holds : α → Prop} {as : List α} {a : α}
    {e : ε} (leftmost : Leftmost holds as a) (reads : ∀ b ∈ as, ¬ holds b → ∃ c, f b = .ok c)
    (failed : f a = .error e) : as.mapM f = .error e := by
  induction leftmost with
  | here found =>
    rw [List.mapM_cons]
    exact bind_eq_error_iff.2 (.inl failed)
  | @later _ b rest other behind ih =>
    obtain ⟨first, others⟩ := List.forall_mem_cons.1 reads
    obtain ⟨c, read⟩ := first other
    rw [List.mapM_cons]
    exact bind_eq_error_iff.2 (.inr ⟨c, read, bind_eq_error_iff.2 (.inl (ih others failed))⟩)

/-- Where all sources are read and what is read is then read again, the second reading fails at the
leftmost source that cannot be read twice. -/
theorem mapM_mapM_eq_error_of_leftmost {γ : Type} {f : α → Except ε β} {g : β → Except ε γ}
    {holds : α → Prop} {as : List α} {a : α} {e : ε} (leftmost : Leftmost holds as a)
    (once : ∀ b ∈ as, ∃ c, f b = .ok c)
    (twice : ∀ b ∈ as, ¬ holds b → ∃ c, (f b >>= g) = .ok c) (failed : (f a >>= g) = .error e) :
    (as.mapM f >>= fun bs => bs.mapM g) = .error e := by
  have read : ∀ {b rest c cs}, f b = .ok c → rest.mapM f = .ok cs →
      ((b :: rest).mapM f >>= fun bs => bs.mapM g) = (c :: cs).mapM g := by
    intro b rest c cs first others
    rw [mapM_cons_eq_ok_iff.2 ⟨c, cs, first, others, rfl⟩]
    rfl
  induction leftmost with
  | here found =>
    obtain ⟨⟨c, first⟩, others⟩ := List.forall_mem_cons.1 once
    obtain ⟨cs, rest⟩ := exists_mapM_of_forall others
    rw [first] at failed
    rw [read first rest, List.mapM_cons]
    exact bind_eq_error_iff.2 (.inl failed)
  | later other behind ih =>
    obtain ⟨⟨c, first⟩, others⟩ := List.forall_mem_cons.1 once
    obtain ⟨again, othersAgain⟩ := List.forall_mem_cons.1 twice
    obtain ⟨cs, rest⟩ := exists_mapM_of_forall others
    obtain ⟨d, second⟩ := again other
    have behindFails := ih others othersAgain failed
    rw [first] at second
    rw [rest] at behindFails
    rw [read first rest, List.mapM_cons]
    exact bind_eq_error_iff.2 (.inr ⟨d, second, bind_eq_error_iff.2 (.inl behindFails)⟩)

/-- Columns are stopped at the leftmost one that is not in the list. -/
theorem AllowList.requireAll_of_leftmost {allowed : AllowList} {columns : List Text}
    {column : Text} (leftmost : Leftmost (· ∉ allowed) columns column) :
    allowed.requireAll columns = .error (allowed.unknownColumn column) := by
  induction leftmost with
  | here unlisted =>
    rw [requireAll, bind_eq_error_iff, require, if_neg unlisted]
    exact .inl rfl
  | later listed behind ih =>
    rw [requireAll, bind_eq_error_iff, require_eq_ok_iff.2 (Decidable.of_not_not listed)]
    exact .inr ⟨(), rfl, ih⟩

/-- Columns are stopped exactly if one is not in the list, and then at the leftmost such one. -/
theorem AllowList.requireAll_eq_error_iff {allowed : AllowList} {columns : List Text}
    {rejection : Rejection} : allowed.requireAll columns = .error rejection ↔ ∃ column,
      Leftmost (· ∉ allowed) columns column ∧ rejection = allowed.unknownColumn column := by
  constructor
  · intro stopped
    rcases Leftmost.none_or_exists (· ∉ allowed) columns with listed | ⟨column, leftmost⟩
    · have passed := requireAll_eq_ok_iff.2 fun column member =>
        Decidable.of_not_not (listed column member)
      cases stopped.symm.trans passed
    · cases stopped.symm.trans (requireAll_of_leftmost leftmost)
      exact ⟨column, leftmost, rfl⟩
  · rintro ⟨column, leftmost, rfl⟩
    exact requireAll_of_leftmost leftmost

end ListQuery
