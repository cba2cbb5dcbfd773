import Mathlib.Data.List.Induction
import Mathlib.Data.List.Nodup
import ListQuery.Dictionary

/-!
# Looking up in dictionaries

What a dictionary tells is what it gives under each key. Setting a key changes what is found under
that key alone, so of the pairs that make a dictionary the last one of each key counts.
-/

namespace ListQuery.Dictionary

variable {α : Type} {dictionary : Dictionary α} {key : Text} {value : α}

/-- Setting a key brings in no entry but its own. -/
theorem mem_set {entry : Text × α} (member : entry ∈ dictionary.set key value) :
    entry = (key, value) ∨ entry ∈ dictionary := by
  induction dictionary with
  | nil => exact .inl (List.mem_singleton.1 member)
  | cons first rest ih =>
    rw [set] at member
    split at member
    · exact (List.mem_cons.1 member).imp_right (List.mem_cons_of_mem first)
    · rcases List.mem_cons.1 member with rfl | later
      · exact .inr List.mem_cons_self
      · exact (ih later).imp_right (List.mem_cons_of_mem first)

/-- What is found under a key is an entry. -/
theorem mem_of_get? (found : dictionary.get? key = some value) : (key, value) ∈ dictionary := by
  obtain ⟨before, after, same, -⟩ := List.lookup_eq_some_iff.1 found
  simp [same]

/-- Nothing is found under a key exactly if no entry has it. -/
theorem get?_eq_none_iff : dictionary.get? key = none ↔ ∀ entry ∈ dictionary, entry.1 ≠ key := by
  rw [get?, List.lookup_eq_none_iff]
  exact forall₂_congr fun entry member => by rw [bne_iff_ne, ne_comm]

/-- The keys are those under which something is found. -/
theorem mem_keys_iff : key ∈ dictionary.keys ↔ ∃ value, dictionary.get? key = some value := by
  constructor
  · intro member
    obtain ⟨entry, listed, rfl⟩ := List.mem_map.1 member
    refine Option.ne_none_iff_exists'.1 fun missing => ?_
    exact get?_eq_none_iff.1 missing entry listed rfl
  · rintro ⟨value, found⟩
    exact List.mem_map_of_mem (mem_of_get? found)

/-- What is found behind an entry, first in the entry and then in the others. -/
theorem get?_cons (k : Text) (v : α) (rest : Dictionary α) :
    get? ((k, v) :: rest) key = if k = key then some v else rest.get? key := by
  rw [get?, List.lookup_cons]
  by_cases same : k = key
  · simp [same]
  · have other : (key == k) = false := beq_eq_false_iff_ne.2 (Ne.symm same)
    rw [if_neg same, other]
    rfl

/-- An entry is found under its key if no other entry has that. -/
theorem get?_of_mem (distinct : dictionary.keys.Nodup) (member : (key, value) ∈ dictionary) :
    dictionary.get? key = some value := by
  induction dictionary with
  | nil => cases member
  | cons first rest ih =>
    obtain ⟨absent, others⟩ := List.nodup_cons.1 distinct
    rw [get?_cons]
    rcases List.mem_cons.1 member with rfl | later
    · rw [if_pos rfl]
    · have other : first.1 ≠ key := by
        rintro rfl
        exact absent (List.mem_map.2 ⟨_, later, rfl⟩)
      rw [if_neg other]
      exact ih others later

/-- Setting a key changes what is found under that key alone. -/
theorem get?_set (k : Text) :
    (dictionary.set key value).get? k = if key = k then some value else dictionary.get? k := by
  induction dictionary with
  | nil => exact get?_cons key value []
  | cons first rest ih =>
    obtain ⟨head, old⟩ := first
    rw [set]
    split
    · rename_i same
      subst same
      rw [get?_cons, get?_cons]
      split <;> rfl
    · rename_i other
      rw [get?_cons, get?_cons, ih]
      by_cases there : head = k
      · subst there
        rw [if_pos rfl, if_neg (Ne.symm other), if_pos rfl]
      · rw [if_neg there, if_neg there]

/-- Of the pairs that make a dictionary, the last one of a key is found under it. -/
theorem get?_ofPairs (pairs : List (Text × α)) :
    (ofPairs pairs).get? key = pairs.reverse.lookup key := by
  induction pairs using List.reverseRecOn with
  | nil => rfl
  | append_singleton pairs last ih =>
    rw [ofPairs, List.foldl_append, ← ofPairs, List.reverse_concat]
    exact (get?_set key).trans (by rw [ih]; exact (get?_cons last.1 last.2 pairs.reverse).symm)

/-- A value is found under a key exactly if the last pair of that key has it. -/
theorem get?_ofPairs_eq_some_iff {pairs : List (Text × α)} :
    (ofPairs pairs).get? key = some value ↔ ∃ before after,
      pairs = before ++ (key, value) :: after ∧ ∀ entry ∈ after, entry.1 ≠ key := by
  rw [get?_ofPairs, List.lookup_eq_some_iff]
  constructor
  · rintro ⟨back, front, same, absent⟩
    refine ⟨front.reverse, back.reverse, ?_, fun entry member => ?_⟩
    · rw [← List.reverse_reverse pairs, same]
      simp
    · exact (bne_iff_ne.1 (absent entry (List.mem_reverse.1 member))).symm
  · rintro ⟨before, after, rfl, absent⟩
    refine ⟨after.reverse, before.reverse, by simp, fun entry member => ?_⟩
    exact bne_iff_ne.2 (absent entry (List.mem_reverse.1 member)).symm

/-- Nothing is found under a key exactly if no pair has it. -/
theorem get?_ofPairs_eq_none_iff {pairs : List (Text × α)} :
    (ofPairs pairs).get? key = none ↔ ∀ entry ∈ pairs, entry.1 ≠ key := by
  rw [get?_ofPairs]
  exact get?_eq_none_iff.trans (by simp only [List.mem_reverse])

/-- Setting a key keeps the keys distinct. -/
theorem nodup_keys_set (distinct : dictionary.keys.Nodup) :
    (dictionary.set key value).keys.Nodup := by
  induction dictionary with
  | nil => exact List.nodup_singleton key
  | cons first rest ih =>
    obtain ⟨absent, others⟩ := List.nodup_cons.1 distinct
    rw [set]
    split
    · rename_i same
      exact List.nodup_cons.2 ⟨same ▸ absent, others⟩
    · rename_i other
      refine List.nodup_cons.2 ⟨fun member => ?_, ih others⟩
      obtain ⟨entry, listed, same⟩ := List.mem_map.1 member
      rcases mem_set listed with rfl | old
      · exact other same.symm
      · exact absent (same ▸ List.mem_map_of_mem old)

/-- The keys of a dictionary made of pairs are distinct. -/
theorem nodup_keys_ofPairs (pairs : List (Text × α)) : (ofPairs pairs).keys.Nodup := by
  induction pairs using List.reverseRecOn with
  | nil => exact List.nodup_nil
  | append_singleton pairs last ih =>
    rw [ofPairs, List.foldl_append, ← ofPairs]
    exact nodup_keys_set ih

end ListQuery.Dictionary
