import ListQuery.Filter.Tree.Parser
import ListQuery.Proofs.Except

/-!
# Which tokens make up a tree

`Tree.Spells` says what tokens a tree is written with: its clauses, its connectives with blanks on
both sides, and a pair of parentheses for each group, at most so many inside one another.
`spells_of_chain`, `chain_of_spells` and `ofTokens_eq_ok_iff` say that the descent finds a tree
exactly in the tokens that spell it.
-/

namespace ListQuery.Filter.Tree

/-- A token is a literal that may stand behind a comparator. -/
def FitsBehind (comparator : Comparator) (literal : Token) : Prop :=
  literal.kind = .string ∧ comparator.comparesStrings = true ∨
    literal.kind = .number ∧ comparator.comparesNumbers = true ∧
      isBoundedNumber literal.text = true

/-- Some tokens are a column, a comparator and a literal. -/
inductive SpellsClause : Clause → List Token → Prop where
  | intro {column symbol literal : Token} {comparator : Comparator}
      (isColumn : column.kind = .identifier) (isSymbol : symbol.kind = .comparator comparator)
      (fits : FitsBehind comparator literal) :
      SpellsClause ⟨column.text, comparator, literal.text⟩ [column, symbol, literal]

/-- A token is a connective with blanks on both sides. -/
structure Joins (connective : Connective) (token : Token) : Prop where
  kind : token.kind = .connective connective
  spacedBefore : token.spacedBefore = true
  spacedAfter : token.spacedAfter = true

/-- Some tokens are written for a tree in which at most `room` groups are nested. -/
inductive Spells : (room : Nat) → Tree → List Token → Prop where
  | clause {room : Nat} {clause : Clause} {tokens : List Token}
      (spelled : SpellsClause clause tokens) : Spells room (.clause clause) tokens
  | group {room : Nat} {inner : Tree} {opening closing : Token} {tokens : List Token}
      (opens : opening.kind = .openGroup) (spelled : Spells room inner tokens)
      (closes : closing.kind = .closeGroup) :
      Spells (room + 1) (.group inner) (opening :: (tokens ++ [closing]))
  | clauseThen {room : Nat} {clause : Clause} {connective : Connective} {rest : Tree}
      {token : Token} {tokens later : List Token}
      (spelled : SpellsClause clause tokens) (joins : Joins connective token)
      (spelledRest : Spells room rest later) :
      Spells room (.clauseThen clause connective rest) (tokens ++ token :: later)
  | groupThen {room : Nat} {inner rest : Tree} {connective : Connective}
      {opening closing token : Token} {tokens later : List Token}
      (opens : opening.kind = .openGroup) (spelled : Spells room inner tokens)
      (closes : closing.kind = .closeGroup) (joins : Joins connective token)
      (spelledRest : Spells (room + 1) rest later) :
      Spells (room + 1) (.groupThen inner connective rest)
        (opening :: (tokens ++ closing :: token :: later))

/-- A reader that carries a proof along ends in the given value. -/
def Yields {α : Type} {holds : α → Prop} (outcome : Except Rejection { a // holds a })
    (a : α) : Prop :=
  ∃ proof, outcome = .ok ⟨a, proof⟩

/-- A reader that fails ends in no value. -/
theorem not_yields_error {α : Type} {holds : α → Prop} {rejection : Rejection} {a : α} :
    ¬ Yields (.error rejection : Except Rejection { a // holds a }) a := by
  simp [Yields]

/-- A reader that succeeds ends in its value. -/
theorem yields_ok_iff {α : Type} {holds : α → Prop} {step : { a // holds a }} {a : α} :
    Yields (.ok step) a ↔ step.val = a := by
  constructor
  · rintro ⟨proof, same⟩
    cases same
    rfl
  · rintro rfl
    exact ⟨step.property, rfl⟩

/-- A literal is read if one that may stand behind the comparator comes first. -/
theorem literalAfter_yields_iff {comparator : Comparator} {tokens rest : List Token}
    {literal : Text} :
    Yields (literalAfter comparator tokens) (literal, rest) ↔
      ∃ token, tokens = token :: rest ∧ token.text = literal ∧ FitsBehind comparator token := by
  cases tokens with
  | nil => simp [literalAfter, not_yields_error]
  | cons token later =>
    have shape : (∃ first, token :: later = first :: rest ∧ first.text = literal ∧
        FitsBehind comparator first) ↔
        (token.text, later) = (literal, rest) ∧ FitsBehind comparator token := by
      grind
    rw [shape, literalAfter]
    unfold FitsBehind
    split
    · simp_all [not_yields_error]
    · split <;> simp_all [not_yields_error, yields_ok_iff]
    · split
      · simp_all [not_yields_error]
      · split <;> simp_all [not_yields_error, yields_ok_iff]
    · simp_all [not_yields_error]

/-- A clause is read if its tokens come first. -/
theorem clauseFrom_yields_iff {first : Token} {tokens rest : List Token} {clause : Clause} :
    Yields (clauseFrom first tokens) (clause, rest) ↔
      ∃ spelled, first :: tokens = spelled ++ rest ∧ SpellsClause clause spelled := by
  constructor
  · rintro ⟨proof, read⟩
    unfold clauseFrom at read
    split at read
    · rename_i isColumn
      unfold comparisonAfter at read
      split at read
      · simp at read
      · split at read
        · rename_i token later comparator isSymbol
          obtain ⟨⟨⟨literal, left⟩, fewer⟩, readLiteral, same⟩ := bind_eq_ok_iff.1 read
          obtain ⟨literal, rfl, rfl, fits⟩ := literalAfter_yields_iff.1 ⟨_, readLiteral⟩
          cases same
          exact ⟨_, rfl, .intro isColumn isSymbol fits⟩
        · simp at read
    · simp at read
    · simp at read
  · rintro ⟨spelled, same, ⟨isColumn, isSymbol, fits⟩⟩
    cases same
    rename_i symbol literal comparator
    obtain ⟨proof, read⟩ :=
      literalAfter_yields_iff.2 ⟨literal, (rfl : literal :: rest = _), rfl, fits⟩
    simp [clauseFrom, isColumn, comparisonAfter, isSymbol, read, bind, Except.bind,
      yields_ok_iff]

/-- A connective is read where it joins two operands. -/
theorem connectiveBefore_eq_ok_iff {token : Token} {tokens : List Token}
    {connective : Connective} :
    connectiveBefore token tokens = .ok connective ↔
      Joins connective token ∧ atGroupEnd tokens = false := by
  constructor
  · intro read
    unfold connectiveBefore at read
    split at read
    · rename_i kind
      split at read
      · simp at read
      · rename_i inside
        split at read
        · rename_i spaced
          cases read
          simp at spaced inside
          exact ⟨⟨kind, spaced.1, spaced.2⟩, inside⟩
        · simp at read
    · simp at read
  · rintro ⟨joins, inside⟩
    simp [connectiveBefore, joins.kind, inside, joins.spacedBefore, joins.spacedAfter]

/-- A chain goes on behind its first operand if a connective joins it to another chain, and is
complete at the end of its group. -/
theorem chainFrom_yields_iff {operand : Operand} {tokens left : List Token} {tree : Tree}
    {expression : (rest : List Token) → rest.length < tokens.length →
      Except Rejection (Step Tree rest)} :
    Yields (chainFrom operand tokens expression) (tree, left) ↔
      (atGroupEnd tokens = true ∧ tree = operand.alone ∧ left = tokens) ∨
      ∃ token rest connective chain shorter, tokens = token :: rest ∧
        Joins connective token ∧ atGroupEnd rest = false ∧
        Yields (expression rest shorter) (chain, left) ∧
        tree = operand.joined connective chain := by
  cases tokens with
  | nil =>
    rw [chainFrom, yields_ok_iff]
    constructor
    · rintro same
      cases same
      exact .inl ⟨rfl, rfl, rfl⟩
    · rintro (⟨-, rfl, rfl⟩ | ⟨_, _, _, _, _, impossible, -⟩)
      · rfl
      · simp at impossible
  | cons token rest =>
    by_cases closes : token.kind = .closeGroup
    · simp only [chainFrom, closes, if_true, yields_ok_iff]
      constructor
      · rintro same
        cases same
        exact .inl ⟨by simp [atGroupEnd, closes], rfl, rfl⟩
      · rintro (⟨-, rfl, rfl⟩ | ⟨_, _, connective, _, _, same, joins, -⟩)
        · rfl
        · cases same
          simp [joins.kind] at closes
    · simp only [chainFrom, closes, atGroupEnd, if_false]
      constructor
      · rintro ⟨proof, read⟩
        obtain ⟨connective, joined, read⟩ := bind_eq_ok_iff.1 read
        obtain ⟨⟨⟨chain, behind⟩, fewer⟩, readChain, same⟩ := bind_eq_ok_iff.1 read
        obtain ⟨joins, inside⟩ := connectiveBefore_eq_ok_iff.1 joined
        cases same
        exact .inr ⟨token, rest, connective, chain, _, rfl, joins, inside, ⟨_, readChain⟩, rfl⟩
      · rintro (⟨impossible, -⟩ | ⟨_, _, connective, chain, shorter, same, joins, inside, read,
          rfl⟩)
        · simp at impossible
        · cases same
          obtain ⟨proof, readChain⟩ := read
          simp [connectiveBefore_eq_ok_iff.2 ⟨joins, inside⟩, readChain, bind, Except.bind,
            yields_ok_iff]

/-- A chain that starts with a group: the chain inside, a closing token, and what follows. -/
theorem chain_yields_group_iff {source : Text} {room : Nat} {first : Token}
    {later left : List Token} {tree : Tree} (opens : first.kind = .openGroup) :
    Yields (chain source room (first :: later)) (tree, left) ↔
      room ≠ 0 ∧ ∃ inner closing rest,
        Yields (chain source (room - 1) later) (inner, closing :: rest) ∧
        Yields (chainFrom (.group inner) rest fun after _ => chain source room after)
          (tree, left) := by
  rw [chain, if_pos opens]
  by_cases full : room = 0
  · simp [full, not_yields_error]
  · rw [if_neg full]
    constructor
    · rintro ⟨proof, read⟩
      obtain ⟨⟨⟨inner, rest⟩, fewer⟩, readInner, read⟩ := bind_eq_ok_iff.1 read
      cases rest with
      | nil => simp at read
      | cons closing rest =>
        obtain ⟨⟨⟨chain, behind⟩, _⟩, readChain, same⟩ := bind_eq_ok_iff.1 read
        cases same
        exact ⟨full, inner, closing, rest, ⟨_, readInner⟩, _, readChain⟩
    · rintro ⟨-, inner, closing, rest, ⟨_, readInner⟩, _, readChain⟩
      simp [readInner, readChain, bind, Except.bind, yields_ok_iff]

/-- A chain that starts with a clause: the clause and what follows. -/
theorem chain_yields_clause_iff {source : Text} {room : Nat} {first : Token}
    {later left : List Token} {tree : Tree} (plain : first.kind ≠ .openGroup) :
    Yields (chain source room (first :: later)) (tree, left) ↔
      ∃ clause rest, Yields (clauseFrom first later) (clause, rest) ∧
        Yields (chainFrom (.clause clause) rest fun after _ => chain source room after)
          (tree, left) := by
  rw [chain, if_neg plain]
  constructor
  · rintro ⟨proof, read⟩
    obtain ⟨⟨⟨clause, rest⟩, fewer⟩, readClause, read⟩ := bind_eq_ok_iff.1 read
    obtain ⟨⟨⟨chain, behind⟩, _⟩, readChain, same⟩ := bind_eq_ok_iff.1 read
    cases same
    exact ⟨clause, rest, ⟨_, readClause⟩, _, readChain⟩
  · rintro ⟨clause, rest, ⟨_, readClause⟩, _, readChain⟩
    simp [readClause, readChain, bind, Except.bind, yields_ok_iff]

/-- What the descent finds is spelled by the tokens that it takes. -/
theorem spells_of_chain {source : Text} {room : Nat} {tokens rest : List Token} {tree : Tree}
    (read : Yields (chain source room tokens) (tree, rest)) :
    ∃ used, tokens = used ++ rest ∧ Spells room tree used ∧ atGroupEnd rest = true := by
  induction room, tokens using chain.induct generalizing tree rest with
  | case1 room =>
    rw [chain] at read
    exact absurd read not_yields_error
  | case2 first later opens =>
    exact absurd rfl ((chain_yields_group_iff opens).1 read).1
  | case3 room first later opens nonzero ihInner ihRest =>
    obtain ⟨-, inner, closing, behind, readInner, readChain⟩ :=
      (chain_yields_group_iff opens).1 read
    have ⟨fewer, _⟩ := readInner
    obtain ⟨tokens, rfl, spelled, ends⟩ := ihInner readInner
    have closes : closing.kind = .closeGroup := by simpa [atGroupEnd] using ends
    obtain ⟨room, rfl⟩ := Nat.exists_eq_succ_of_ne_zero nonzero
    obtain ⟨groupEnds, rfl, rfl⟩ | ⟨token, after, connective, chain, shorter, rfl, joins, -,
      readAfter, rfl⟩ := chainFrom_yields_iff.1 readChain
    · exact ⟨_, by simp, .group opens spelled closes, groupEnds⟩
    · obtain ⟨used, rfl, spelledRest, groupEnds⟩ :=
        ihRest inner [] closing (token :: after) fewer after shorter readAfter
      exact ⟨_, by simp, .groupThen opens spelled closes joins spelledRest, groupEnds⟩
  | case4 room first later plain ih =>
    obtain ⟨clause, behind, readClause, readChain⟩ := (chain_yields_clause_iff plain).1 read
    have ⟨fewer, _⟩ := readClause
    obtain ⟨tokens, same, spelled⟩ := clauseFrom_yields_iff.1 readClause
    rw [same]
    obtain ⟨groupEnds, rfl, rfl⟩ | ⟨token, after, connective, chain, shorter, rfl, joins, -,
      readAfter, rfl⟩ := chainFrom_yields_iff.1 readChain
    · exact ⟨tokens, rfl, .clause spelled, groupEnds⟩
    · obtain ⟨used, rfl, spelledRest, groupEnds⟩ :=
        ih clause (token :: after) fewer after shorter readAfter
      exact ⟨_, by simp, .clauseThen spelled joins spelledRest, groupEnds⟩

/-- A token of a clause comes first, and it opens no group. -/
theorem SpellsClause.first {clause : Clause} {tokens : List Token}
    (spelled : SpellsClause clause tokens) :
    ∃ first later, tokens = first :: later ∧ first.kind = .identifier := by
  cases spelled with
  | intro isColumn isSymbol fits => exact ⟨_, _, rfl, isColumn⟩

/-- No group ends where a chain starts. -/
theorem Spells.atGroupEnd {room : Nat} {tree : Tree} {tokens : List Token}
    (spelled : Spells room tree tokens) (rest : List Token) :
    Tree.atGroupEnd (tokens ++ rest) = false := by
  cases spelled with
  | clause spelled | clauseThen spelled joins spelledRest =>
    obtain ⟨first, later, rfl, kind⟩ := spelled.first
    simp [Tree.atGroupEnd, kind]
  | group opens spelled closes | groupThen opens spelled closes joins spelledRest =>
    simp [Tree.atGroupEnd, opens]

/-- The descent finds a clause in front of a chain, and goes on behind it. -/
theorem chain_clause {source : Text} {room : Nat} {tokens rest left : List Token}
    {clause : Clause} {tree : Tree} (spelled : SpellsClause clause tokens)
    (read : Yields (chainFrom (.clause clause) rest fun after _ => chain source room after)
      (tree, left)) :
    Yields (chain source room (tokens ++ rest)) (tree, left) := by
  obtain ⟨first, later, rfl, kind⟩ := spelled.first
  refine (chain_yields_clause_iff (by simp [kind])).2 ⟨clause, rest, ?_, read⟩
  exact clauseFrom_yields_iff.2 ⟨_, rfl, spelled⟩

/-- What tokens spell is found by the descent, if a group or the text ends behind them. -/
theorem chain_of_spells {source : Text} {room : Nat} {used rest : List Token} {tree : Tree}
    (spelled : Spells room tree used) (ends : atGroupEnd rest = true) :
    Yields (chain source room (used ++ rest)) (tree, rest) := by
  induction spelled generalizing rest with
  | clause spelled =>
    exact chain_clause spelled (chainFrom_yields_iff.2 (.inl ⟨ends, rfl, rfl⟩))
  | @group room inner opening closing tokens opens spelled closes ih =>
    have groupEnds : Tree.atGroupEnd (closing :: rest) = true := by simp [atGroupEnd, closes]
    rw [List.cons_append, List.append_assoc]
    refine (chain_yields_group_iff opens).2 ⟨by simp, inner, closing, rest, ih groupEnds, ?_⟩
    exact chainFrom_yields_iff.2 (.inl ⟨ends, rfl, rfl⟩)
  | @clauseThen room clause connective tree token tokens later spelled joins spelledRest ih =>
    rw [List.append_assoc]
    refine chain_clause spelled (chainFrom_yields_iff.2 (.inr ?_))
    exact ⟨token, _, connective, tree, by simp, rfl, joins, spelledRest.atGroupEnd rest,
      ih ends, rfl⟩
  | @groupThen room inner tree connective opening closing token tokens later opens spelled closes
      joins spelledRest ihInner ih =>
    have groupEnds : Tree.atGroupEnd (closing :: token :: (later ++ rest)) = true := by
      simp [atGroupEnd, closes]
    rw [List.cons_append, List.append_assoc]
    refine (chain_yields_group_iff opens).2
      ⟨by simp, inner, closing, token :: (later ++ rest), ihInner groupEnds, ?_⟩
    refine chainFrom_yields_iff.2 (.inr ?_)
    exact ⟨token, _, connective, tree, by simp, rfl, joins, spelledRest.atGroupEnd rest,
      ih ends, rfl⟩

/-- A tree is read from all tokens of a filter exactly if they spell it. -/
theorem ofTokens_eq_ok_iff {source : Text} {tokens : List Token} {tree : Tree} :
    ofTokens source tokens = .ok tree ↔ Spells maxDepth tree tokens := by
  constructor
  · intro read
    unfold ofTokens at read
    split at read
    · simp at read
    · obtain ⟨⟨⟨found, rest⟩, fewer⟩, readChain, read⟩ := bind_eq_ok_iff.1 read
      cases rest with
      | nil =>
        cases read
        obtain ⟨used, rfl, spelled, -⟩ := spells_of_chain ⟨_, readChain⟩
        simpa using spelled
      | cons token rest => simp at read
  · intro spelled
    have nonempty : tokens ≠ [] := by
      rintro rfl
      simpa [atGroupEnd] using spelled.atGroupEnd []
    have found : Yields (chain source maxDepth (tokens ++ [])) (tree, []) :=
      chain_of_spells spelled rfl
    rw [List.append_nil] at found
    obtain ⟨_, read⟩ := found
    simp [ofTokens, nonempty, read, bind, Except.bind]

end ListQuery.Filter.Tree
