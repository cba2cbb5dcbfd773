import ListQuery.Proofs.Examination
import ListQuery.Proofs.Fields
import ListQuery.Proofs.Filter.Rendering
import ListQuery.Proofs.Limit
import ListQuery.Proofs.Sort

/-!
# List queries asked again

An examination accepts a query exactly if each of its parameters fits and is read. A query that
was accepted can be written back from what was understood of it. Asked in that form, it is
accepted again and understood in the same way, whatever limits are in effect.
-/

namespace ListQuery

namespace Query

/-- An expression is accepted exactly if it is not too long and can be read. -/
theorem outcome_eq_ok_iff {α : Type} {config : Config} {parameter : Parameter} {raw : Text}
    {parsed : Except Rejection α} {value : α} :
    outcome config parameter raw parsed = .ok value ↔
      (raw.length : Int) ≤ config.maxExpressionLength ∧ parsed = .ok value := by
  unfold outcome
  split
  · rename_i long
    simp only [reduceCtorEq, false_iff]
    omega
  · rename_i short
    have fits : (raw.length : Int) ≤ config.maxExpressionLength := by omega
    cases parsed <;> simp [Except.mapError, fits]

/-- A query is understood as a selection: every expression fits and is read, and so is the
limit. -/
structure Accepts (config : Config) (resource : Resource) (query : Query)
    (selection : Selection) : Prop where
  sortFits : (query.sort.length : Int) ≤ config.maxExpressionLength
  sort : Sort.parse resource.sort query.sort = .ok selection.sort
  filterFits : (query.filter.length : Int) ≤ config.maxExpressionLength
  filter : Filter.parse resource.filter query.filter = .ok selection.filter
  fieldsFit : (query.fields.length : Int) ≤ config.maxExpressionLength
  fields : Fields.parse resource.fields query.fields = .ok selection.fields
  limit : Limit.parse config.limits query.limit = .ok selection.limit

/-- An examination finds a selection exactly if the query is understood as it. -/
theorem result_examine_eq_ok_iff {config : Config} {resource : Resource} {query : Query}
    {selection : Selection} :
    (examine config resource query).result = .ok selection ↔
      Accepts config resource query selection := by
  simp only [result_examine, bind_eq_ok_iff, outcome_eq_ok_iff]
  constructor
  · rintro ⟨sort, ⟨sortFits, isSort⟩, filter, ⟨filterFits, isFilter⟩, fields,
      ⟨fieldsFit, areFields⟩, limit, isLimit, same⟩
    cases same
    exact ⟨sortFits, isSort, filterFits, isFilter, fieldsFit, areFields, isLimit⟩
  · intro accepts
    exact ⟨_, ⟨accepts.sortFits, accepts.sort⟩, _, ⟨accepts.filterFits, accepts.filter⟩, _,
      ⟨accepts.fieldsFit, accepts.fields⟩, _, accepts.limit, rfl⟩

/-- A query as it is written back from what was understood of it. There is none if a connective
is missing. -/
def canonical? (query : Query) (selection : Selection) : Option Query :=
  selection.filter.text?.map fun filter =>
    { fields := Fields.text selection.fields
      sort := Sort.text selection.sort
      filter := filter
      limit := Limit.text query.limit selection.limit }

/-- A query that is accepted is accepted in canonical form as well, and understood in the same
way. No expression gets longer. -/
theorem examine_canonical {config : Config} {resource : Resource} {query : Query}
    {selection : Selection} (named : [] ∉ resource.fields)
    (accepted : (examine config resource query).result = .ok selection) :
    ∃ canonical, query.canonical? selection = some canonical ∧
      (examine config resource canonical).result = .ok selection ∧
      canonical.fields.length ≤ query.fields.length ∧
      canonical.sort.length ≤ query.sort.length ∧
      canonical.filter.length ≤ query.filter.length := by
  have accepts := result_examine_eq_ok_iff.1 accepted
  obtain ⟨sort, sortShort⟩ := Sort.parse_text accepts.sort
  obtain ⟨text, isText, filter, filterShort⟩ := Filter.parse_text accepts.filter
  obtain ⟨fields, fieldsShort⟩ := Fields.parse_text named accepts.fields
  have sortFits := accepts.sortFits
  have filterFits := accepts.filterFits
  have fieldsFit := accepts.fieldsFit
  refine ⟨⟨Fields.text selection.fields, Sort.text selection.sort, text,
    Limit.text query.limit selection.limit⟩, ?_, ?_, fieldsShort, sortShort, filterShort⟩
  · rw [canonical?, isText]
    rfl
  · apply result_examine_eq_ok_iff.2
    constructor
    · exact Int.le_trans (Int.ofNat_le.2 sortShort) sortFits
    · exact sort
    · exact Int.le_trans (Int.ofNat_le.2 filterShort) filterFits
    · exact filter
    · exact Int.le_trans (Int.ofNat_le.2 fieldsShort) fieldsFit
    · exact fields
    · exact Limit.parse_text accepts.limit

/-- A query with blanks, a sign and leading zeros is understood like its canonical form. -/
theorem examine_canonical_spaced :
    ∃ selection,
      (examine (Settings.standard.inEffect .empty)
        (.named "notes" ["id", "title"] ["id"] ["title"])
        ⟨" id,title ", "title  desc", "( id = 1 )", some "+007"⟩).result = .ok selection ∧
      (examine (Settings.standard.inEffect .empty)
        (.named "notes" ["id", "title"] ["id"] ["title"])
        ⟨"id,title", "title DESC", "(id=1)", some "7"⟩).result = .ok selection := by
  obtain ⟨selection, isSelection⟩ : ∃ selection : Selection, selection =
      ⟨["id", "title"], [⟨"title", .descending⟩],
        ⟨[⟨"id", .equal, .number "1"⟩], [], [⟨0, 0⟩]⟩, 7⟩ := ⟨_, rfl⟩
  have accepted : (examine (Settings.standard.inEffect .empty)
      (.named "notes" ["id", "title"] ["id"] ["title"])
      ⟨" id,title ", "title  desc", "( id = 1 )", some "+007"⟩).result = .ok selection := by
    rw [isSelection]
    decide +kernel
  have written : canonical? ⟨" id,title ", "title  desc", "( id = 1 )", some "+007"⟩ selection =
      some ⟨"id,title", "title DESC", "(id=1)", some "7"⟩ := by
    rw [isSelection]
    decide +kernel
  obtain ⟨canonical, isCanonical, again, -⟩ := examine_canonical (by decide) accepted
  cases written.symm.trans isCanonical
  exact ⟨selection, accepted, again⟩

end Query

end ListQuery
