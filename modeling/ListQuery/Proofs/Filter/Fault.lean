import ListQuery.Proofs.Filter.Nesting

/-!
# Where the descent stops

The descent reads from left to right, so what it rejects is behind tokens that it has read. A fault
behind the tokens of a tree is reported as it would be alone (`chain_of_breaks`), and so is one
inside of a group. Tokens that nest their groups more deeply than there is room for are rejected,
whatever follows them (`chain_of_deep`).
-/

namespace ListQuery.Filter.Tree

/-- Tokens that an operand cannot be followed by: what comes first is no connective between
operands, or no chain is read behind the connective. -/
inductive Breaks (source : Text) (room : Nat) : List Token → Rejection → Prop where
  | connective {token : Token} {rest : List Token} {rejection : Rejection}
      (continues : token.kind ≠ .closeGroup)
      (refused : connectiveBefore token rest = .error rejection) :
      Breaks source room (token :: rest) rejection
  | operand {token : Token} {rest : List Token} {connective : Connective} {rejection : Rejection}
      (joined : connectiveBefore token rest = .ok connective)
      (refused : chain source room rest = .error rejection) :
      Breaks source room (token :: rest) rejection

/-- The rejection of a group for which there is no room. -/
def tooDeep : Rejection :=
  .expecting .malformed "(" "at most 32 nested groups"

section

variable {source : Text} {room : Nat} {opening closing : Token} {tokens used rest : List Token}
  {tree inner : Tree} {clause : Clause} {connective : Connective} {rejection : Rejection}

/-! ## One token -/

/-- A connective with no operand behind it is rejected. -/
theorem connectiveBefore_of_atGroupEnd {token : Token} (kind : token.kind = .connective connective)
    (ends : atGroupEnd rest = true) : connectiveBefore token rest =
      .error (.expecting .cardinalityMismatch token.text "condition") := by
  simp [connectiveBefore, kind, ends]

/-- A connective between operands is rejected if a blank is missing beside it. -/
theorem connectiveBefore_of_unspaced {token : Token} (kind : token.kind = .connective connective)
    (inside : atGroupEnd rest = false)
    (unspaced : (token.spacedBefore && token.spacedAfter) = false) : connectiveBefore token rest =
      .error (.expecting .malformed token.text "whitespace around connective") := by
  simp [connectiveBefore, kind, inside, unspaced]

/-- A tree is written with a column or a parenthesis first. -/
theorem Spells.first (spelled : Spells room tree used) :
    ∃ first later, used = first :: later ∧
      (first.kind = .identifier ∨ first.kind = .openGroup) := by
  cases spelled with
  | clause spelled | clauseThen spelled joins spelledRest =>
    obtain ⟨first, later, rfl, kind⟩ := spelled.first
    exact ⟨first, _, rfl, .inl kind⟩
  | group opens spelled closes | groupThen opens spelled closes joins spelledRest =>
    exact ⟨_, _, rfl, .inr opens⟩

/-- An operand directly behind another one is rejected. -/
theorem breaks_of_operand {token : Token}
    (starts : token.kind = .identifier ∨ token.kind = .openGroup) :
    Breaks source room (token :: rest)
      (.expecting .cardinalityMismatch token.text "AND or OR") := by
  rcases starts with kind | kind <;>
    exact .connective (by simp [kind]) (by simp [connectiveBefore, kind])

/-- No chain starts with a connective. -/
theorem chain_of_connective {token : Token} (kind : token.kind = .connective connective) :
    chain source room (token :: rest) =
      .error (.expecting .cardinalityMismatch token.text "column") := by
  rw [chain, if_neg (by simp [kind]), clauseFrom, kind]
  rfl

/-- No chain starts where a group closes. -/
theorem chain_of_closing (closes : closing.kind = .closeGroup) :
    chain source room (closing :: rest) =
      .error (.expecting .malformed closing.text "column") := by
  rw [chain, if_neg (by simp [closes]), clauseFrom, closes]
  rfl

/-! ## One step -/

/-- No operand goes on behind what it cannot be followed by. -/
theorem chainFrom_of_breaks (operand : Operand) (breaks : Breaks source room tokens rejection) :
    chainFrom operand tokens (fun after _ => chain source room after) = .error rejection := by
  cases breaks with
  | connective continues refused => simp [chainFrom, continues, refused, bind, Except.bind]
  | operand joined refused =>
    have continues := (connectiveBefore_eq_ok_iff.1 joined).1.kind
    simp [chainFrom, continues, joined, refused, bind, Except.bind]

/-- A fault behind a clause is reported. -/
theorem chain_clause_eq_error (spelled : SpellsClause clause used)
    (breaks : Breaks source room rest rejection) :
    chain source room (used ++ rest) = .error rejection := by
  obtain ⟨first, later, rfl, kind⟩ := spelled.first
  obtain ⟨_, read⟩ : Yields (clauseFrom first (later ++ rest)) (clause, rest) :=
    clauseFrom_yields_iff.2 ⟨_, rfl, spelled⟩
  rw [List.cons_append, chain]
  simp [kind, read, chainFrom_of_breaks (.clause clause) breaks, bind, Except.bind]

/-- A group for which there is no room is rejected. -/
theorem chain_full_eq_error (opens : opening.kind = .openGroup)
    (text : opening.text = [.scalar '(']) :
    chain source 0 (opening :: tokens) = .error tooDeep := by
  rw [chain, if_pos opens, if_pos rfl, text]
  rfl

/-- A fault inside of a group is reported. -/
theorem chain_inner_eq_error (opens : opening.kind = .openGroup)
    (refused : chain source room tokens = .error rejection) :
    chain source (room + 1) (opening :: tokens) = .error rejection := by
  rw [chain, if_pos opens, if_neg (Nat.succ_ne_zero room), Nat.add_sub_cancel, refused]
  rfl

/-- A group that is not closed is rejected. -/
theorem chain_unclosed_eq_error (opens : opening.kind = .openGroup)
    (spelled : Spells room inner used) :
    chain source (room + 1) (opening :: used) =
      .error (.expecting .malformed opening.text "closing parenthesis") := by
  have found : Yields (chain source room (used ++ [])) (inner, []) := chain_of_spells spelled rfl
  rw [List.append_nil] at found
  obtain ⟨_, read⟩ := found
  rw [chain, if_pos opens, if_neg (Nat.succ_ne_zero room), Nat.add_sub_cancel, read]
  rfl

/-- A fault behind a group is reported. -/
theorem chain_group_eq_error (opens : opening.kind = .openGroup)
    (spelled : Spells room inner used) (closes : closing.kind = .closeGroup)
    (breaks : Breaks source (room + 1) rest rejection) :
    chain source (room + 1) (opening :: (used ++ closing :: rest)) = .error rejection := by
  obtain ⟨_, read⟩ : Yields (chain source room (used ++ closing :: rest))
      (inner, closing :: rest) := chain_of_spells spelled (by simp [atGroupEnd, closes])
  rw [chain, if_pos opens, if_neg (Nat.succ_ne_zero room), Nat.add_sub_cancel, read]
  simp [chainFrom_of_breaks (.group inner) breaks, bind, Except.bind]

/-! ## Behind a tree -/

/-- A fault behind the tokens of a tree is reported, however much was read before it. -/
theorem chain_of_breaks (spelled : Spells room tree used)
    (breaks : Breaks source room rest rejection) :
    chain source room (used ++ rest) = .error rejection := by
  induction spelled with
  | clause spelled => exact chain_clause_eq_error spelled breaks
  | group opens spelled closes ih =>
    rw [List.cons_append, List.append_assoc]
    exact chain_group_eq_error opens spelled closes breaks
  | clauseThen spelled joins spelledRest ih =>
    rw [List.append_assoc]
    have joined := connectiveBefore_eq_ok_iff.2 ⟨joins, spelledRest.atGroupEnd rest⟩
    exact chain_clause_eq_error spelled (.operand joined (ih breaks))
  | groupThen opens spelled closes joins spelledRest ihInner ihRest =>
    rw [List.cons_append, List.append_assoc]
    have joined := connectiveBefore_eq_ok_iff.2 ⟨joins, spelledRest.atGroupEnd rest⟩
    exact chain_group_eq_error opens spelled closes (.operand joined (ihRest breaks))

/-- Tokens that nest their groups more deeply than there is room for are rejected at the first
group that is one too many. -/
theorem chain_of_deep {enough : Nat} (spelled : Spells enough tree used)
    (texts : ∀ token ∈ used, token.kind = .openGroup → token.text = [.scalar '('])
    (deep : room < tree.depth) (rest : List Token) :
    chain source room (used ++ rest) = .error tooDeep := by
  induction spelled generalizing room rest with
  | clause spelled => exact absurd deep (Nat.not_lt_zero room)
  | group opens spelled closes ih =>
    simp only [List.forall_mem_cons, List.forall_mem_append] at texts
    rw [List.cons_append, List.append_assoc]
    cases room with
    | zero => exact chain_full_eq_error opens (texts.1 opens)
    | succ room =>
      exact chain_inner_eq_error opens (ih texts.2.1 (Nat.lt_of_succ_lt_succ deep) _)
  | clauseThen spelled joins spelledRest ih =>
    simp only [List.forall_mem_cons, List.forall_mem_append] at texts
    rw [List.append_assoc]
    have joined := connectiveBefore_eq_ok_iff.2 ⟨joins, spelledRest.atGroupEnd rest⟩
    exact chain_clause_eq_error spelled (.operand joined (ih texts.2.2 deep rest))
  | @groupThen _ inner _ _ _ _ _ _ _ opens spelled closes joins spelledRest ihInner ihRest =>
    simp only [List.forall_mem_cons, List.forall_mem_append] at texts
    rw [List.cons_append, List.append_assoc]
    cases room with
    | zero => exact chain_full_eq_error opens (texts.1 opens)
    | succ room =>
      -- The group that is one too many is behind the first one or inside of it.
      by_cases fits : inner.depth ≤ room
      · have deepRest : room + 1 < _ := (lt_max_iff.1 deep).resolve_left (by omega)
        have joined := connectiveBefore_eq_ok_iff.2 ⟨joins, spelledRest.atGroupEnd rest⟩
        exact chain_group_eq_error opens (spelled.of_depth_le fits) closes
          (.operand joined (ihRest texts.2.2.2.2 deepRest rest))
      · exact chain_inner_eq_error opens (ihInner texts.2.1 (Nat.lt_of_not_le fits) _)

/-! ## All tokens -/

/-- What the descent rejects is no tree. -/
theorem ofTokens_of_chain_eq_error (nonempty : tokens ≠ [])
    (refused : chain source maxDepth tokens = .error rejection) :
    ofTokens source tokens = .error rejection := by
  rw [ofTokens, if_neg nonempty, refused]
  rfl

/-- A parenthesis that closes no group is rejected. -/
theorem ofTokens_of_unopened (spelled : Spells maxDepth tree used)
    (closes : closing.kind = .closeGroup) :
    ofTokens source (used ++ closing :: rest) =
      .error (.expecting .malformed closing.text "matching opening parenthesis") := by
  obtain ⟨_, read⟩ : Yields (chain source maxDepth (used ++ closing :: rest))
      (tree, closing :: rest) := chain_of_spells spelled (by simp [atGroupEnd, closes])
  rw [ofTokens, if_neg (by simp), read]
  rfl

end

end ListQuery.Filter.Tree
