import ListQuery.Fields
import ListQuery.Filter.Parser
import ListQuery.Proofs.Except
import ListQuery.Sort

/-!
# Reasons for rejections

Every reader of expressions rejects for few reasons. The reasons of the parts of an expression add
up to those of the whole, and structural faults of a filter have reasons of their own.
-/

namespace ListQuery

/-- An outcome is a value, or a rejection for one of some reasons. -/
abbrev FailsFor {α : Type} (reasons : List Reason) (outcome : Except Rejection α) : Prop :=
  Meets (fun rejection => rejection.reason ∈ reasons) (fun _ => True) outcome

namespace FailsFor

variable {α β : Type} {reasons fewer : List Reason} {outcome : Except Rejection α}

/-- What fails for few reasons fails for more. -/
theorem mono (fails : FailsFor fewer outcome) (included : fewer ⊆ reasons) :
    FailsFor reasons outcome :=
  fails.imp (fun _ listed => included listed) fun _ => id

/-- A sequence fails for the reasons of its steps. -/
theorem andThen {next : α → Except Rejection β} (first : FailsFor reasons outcome)
    (rest : ∀ a, FailsFor reasons (next a)) : FailsFor reasons (outcome >>= next) :=
  first.bind fun a _ => rest a

/-- Reading a list of sources fails for the reasons of reading each. -/
theorem forEach {f : α → Except Rejection β} (each : ∀ a, FailsFor reasons (f a))
    (sources : List α) : FailsFor reasons (sources.mapM f) :=
  (Meets.mapM fun a (_ : a ∈ sources) => each a).imp (fun _ => id) fun _ _ => trivial

end FailsFor

namespace AllowList

/-- An allow-list is rejected for being empty. -/
theorem failsFor_requireNonempty (allowed : AllowList) :
    FailsFor [.emptyAllowList] allowed.requireNonempty := by
  unfold requireNonempty
  split
  · exact .error List.mem_cons_self
  · exact .ok trivial

/-- Columns are rejected for being unknown. -/
theorem failsFor_requireAll (allowed : AllowList) (columns : List Text) :
    FailsFor [.unknownColumn] (allowed.requireAll columns) := by
  induction columns with
  | nil => exact .ok trivial
  | cons column rest ih =>
    refine FailsFor.andThen ?_ fun _ => ih
    unfold require
    split
    · exact .ok trivial
    · exact .error List.mem_cons_self

end AllowList

/-- A projection is rejected for an empty allow-list or an unknown column. -/
theorem Fields.failsFor_parse (allowed : AllowList) (raw : Text) :
    FailsFor [.emptyAllowList, .unknownColumn] (parse allowed raw) := by
  refine ((AllowList.failsFor_requireNonempty allowed).mono (by simp)).andThen fun _ => ?_
  split
  · exact .ok trivial
  · exact ((AllowList.failsFor_requireAll allowed _).mono (by simp)).andThen fun _ => .ok trivial

end ListQuery

namespace ListQuery.Sort

/-- A part without a direction is rejected as a mismatch. -/
theorem Part.failsFor_directed (part : Part) : FailsFor [.cardinalityMismatch] part.directed := by
  unfold directed
  split
  · exact .ok trivial
  · exact .error List.mem_cons_self

/-- A direction text is rejected as an unknown direction. -/
theorem Key.failsFor_ofTexts (column direction : Text) :
    FailsFor [.unknownDirection] (ofTexts column direction) := by
  unfold ofTexts
  split
  · exact .ok trivial
  · exact .error List.mem_cons_self

/-- A sort order is rejected for an empty allow-list, an unknown column, a missing direction or an
unknown one. -/
theorem failsFor_parse (allowed : AllowList) (raw : Text) :
    FailsFor [.emptyAllowList, .unknownColumn, .cardinalityMismatch, .unknownDirection]
      (parse allowed raw) := by
  refine ((AllowList.failsFor_requireNonempty allowed).mono (by simp)).andThen fun _ => ?_
  split
  · exact .ok trivial
  · refine ((AllowList.failsFor_requireAll allowed _).mono (by simp)).andThen fun _ => ?_
    refine ((FailsFor.forEach Part.failsFor_directed _).mono (by simp)).andThen fun directed => ?_
    have keys := FailsFor.forEach (fun texts => Key.failsFor_ofTexts texts.1 texts.2) directed
    exact keys.mono (by simp)

end ListQuery.Sort

namespace ListQuery

namespace Filter

/-- A text without a lexeme at some place is malformed. -/
theorem Lexeme.failsFor_ofText (text : Text) : FailsFor [.malformed] (ofText text) := by
  induction text using ofText.induct with
  | case1 =>
    rw [ofText, if_pos rfl]
    exact .ok trivial
  | case2 text nonempty none =>
    rw [ofText, if_neg nonempty]
    split
    · exact .error List.mem_cons_self
    · simp_all
  | case3 text nonempty lexeme rest taken ih =>
    rw [ofText, if_neg nonempty]
    split
    · simp_all
    · rename_i first left takenFirst
      cases taken.symm.trans takenFirst
      exact ih.map fun _ _ => trivial

/-- A text that has no tokens is malformed. -/
theorem failsFor_tokenize (raw : Text) : FailsFor [.malformed] (tokenize raw) :=
  (Lexeme.failsFor_ofText raw).map fun _ _ => trivial

namespace Tree

/-- The reasons for which tokens are rejected that make up no tree. -/
def reasons : List Reason :=
  [.malformed, .cardinalityMismatch, .badComparator, .badLiteral]

/-- A literal is rejected for what it is or for the comparator before it. -/
theorem failsFor_literalAfter (comparator : Comparator) (tokens : List Token) :
    FailsFor reasons (literalAfter comparator tokens) := by
  cases tokens with
  | nil => exact .error (by simp [reasons, Rejection.expecting])
  | cons token rest =>
    unfold literalAfter
    dsimp only
    repeat' split
    all_goals first
      | exact .ok trivial
      | exact .error (by simp [reasons, Rejection.expecting])

/-- A comparison is rejected for one of the reasons. -/
theorem failsFor_comparisonAfter (column : Text) (tokens : List Token) :
    FailsFor reasons (comparisonAfter column tokens) := by
  cases tokens with
  | nil => exact .error List.mem_cons_self
  | cons token rest =>
    unfold comparisonAfter
    dsimp only
    split
    · exact (failsFor_literalAfter _ rest).andThen fun _ => .ok trivial
    · exact .error List.mem_cons_self

/-- A clause is rejected for one of the reasons. -/
theorem failsFor_clauseFrom (first : Token) (tokens : List Token) :
    FailsFor reasons (clauseFrom first tokens) := by
  unfold clauseFrom
  split
  · exact failsFor_comparisonAfter first.text tokens
  · exact .error (by simp [reasons, Rejection.expecting])
  · exact .error List.mem_cons_self

/-- A connective is rejected for one of the reasons. -/
theorem failsFor_connectiveBefore (token : Token) (tokens : List Token) :
    FailsFor reasons (connectiveBefore token tokens) := by
  unfold connectiveBefore
  repeat' split
  all_goals first
    | exact .ok trivial
    | exact .error (by simp [reasons, Rejection.expecting])

/-- A chain that goes on behind an operand is rejected for one of the reasons if what stands behind
the connective is. -/
theorem failsFor_chainFrom {operand : Operand} {tokens : List Token}
    {expression : (rest : List Token) → rest.length < tokens.length →
      Except Rejection (Step Tree rest)}
    (fails : ∀ rest shorter, FailsFor reasons (expression rest shorter)) :
    FailsFor reasons (chainFrom operand tokens expression) := by
  cases tokens with
  | nil => exact .ok trivial
  | cons token rest =>
    unfold chainFrom
    dsimp only
    split
    · exact .ok trivial
    · refine (failsFor_connectiveBefore token rest).andThen fun connective => ?_
      exact (fails rest (by simp)).andThen fun _ => .ok trivial

/-- A chain is rejected for one of the reasons. -/
theorem failsFor_chain (source : Text) (room : Nat) (tokens : List Token) :
    FailsFor reasons (chain source room tokens) := by
  induction room, tokens using chain.induct with
  | case1 room =>
    rw [chain]
    exact .error List.mem_cons_self
  | case2 first later opens =>
    rw [chain, if_pos opens, if_pos rfl]
    exact .error List.mem_cons_self
  | case3 room first later opens nonzero ihInner ihRest =>
    rw [chain, if_pos opens, if_neg nonzero]
    refine ihInner.andThen ?_
    rintro ⟨⟨inner, rest⟩, fewer⟩
    cases rest with
    | nil => exact .error List.mem_cons_self
    | cons closing rest =>
      exact (failsFor_chainFrom fun after shorter =>
        ihRest inner [] closing rest fewer after shorter).andThen fun _ => .ok trivial
  | case4 room first later plain ih =>
    rw [chain, if_neg plain]
    refine (failsFor_clauseFrom first later).andThen ?_
    rintro ⟨⟨clause, rest⟩, fewer⟩
    exact (failsFor_chainFrom fun after shorter =>
      ih clause rest fewer after shorter).andThen fun _ => .ok trivial

/-- Tokens that make up no tree are rejected for one of the reasons. -/
theorem failsFor_ofTokens (source : Text) (tokens : List Token) :
    FailsFor reasons (ofTokens source tokens) := by
  unfold ofTokens
  split
  · exact .error List.mem_cons_self
  · refine (failsFor_chain source maxDepth tokens).andThen ?_
    rintro ⟨⟨tree, rest⟩, fewer⟩
    cases rest with
    | nil => exact .ok trivial
    | cons token rest => exact .error List.mem_cons_self

/-- A text without a tree is rejected for one of the reasons. -/
theorem failsFor_ofText (raw : Text) : FailsFor reasons (ofText raw) :=
  ((failsFor_tokenize raw).mono (by simp [reasons])).andThen fun tokens =>
    failsFor_ofTokens raw tokens

end Tree

/-- A literal is rejected for what it is. -/
theorem Condition.failsFor_ofClause (clause : Clause) :
    FailsFor [.badLiteral] (ofClause clause) := by
  unfold ofClause
  split
  · exact .ok trivial
  · exact .error List.mem_cons_self

/-- A filter is rejected for an empty allow-list, an unknown column or a structural fault. -/
theorem failsFor_parse (allowed : AllowList) (raw : Text) :
    FailsFor (.emptyAllowList :: .unknownColumn :: Tree.reasons) (parse allowed raw) := by
  refine ((AllowList.failsFor_requireNonempty allowed).mono (by simp)).andThen fun _ => ?_
  split
  · exact .ok trivial
  · refine ((Tree.failsFor_ofText raw).mono (by simp)).andThen fun tree => ?_
    refine ((AllowList.failsFor_requireAll allowed _).mono (by simp)).andThen fun _ => ?_
    exact ((FailsFor.forEach Condition.failsFor_ofClause _).mono (by simp [Tree.reasons])).andThen
      fun _ => .ok trivial

end Filter

end ListQuery
