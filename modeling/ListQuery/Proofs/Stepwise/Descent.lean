import ListQuery.Proofs.Filter.Descent
import ListQuery.Proofs.Filter.Scan
import ListQuery.Proofs.Stepwise.Lexer

/-!
# Descent step by step

The same descent as a program would run it: a cursor moves over a list of tokens that stays whole,
what a token stands for is looked up when the token is taken, and the conditions, connectives and
groups found are appended to lists. `read_eq` says that no tokens of a text lead to a defect, and
that the lists are those of the tree that the library finds.
-/

namespace ListQuery.Stepwise

open Text ListQuery.Filter
open ListQuery.Filter.Tree (maxDepth isBoundedNumber)

/-! ## The descent -/

/-- How far a descent has come, and what it has found. -/
structure Cursor where
  index : Nat
  depth : Nat
  clauses : List Clause
  connectives : List Connective
  groups : List Span

/-- An outcome that is a rejection. -/
def reject {α : Type} (rejection : Rejection) : Except Stop α :=
  .error (.rejected rejection)

/-- The token at an index, and the next index. -/
def advance (tokens : List Token) (index : Nat) : Except Stop (Token × Nat) :=
  match tokens[index]? with
  | some token => .ok (token, index + 1)
  | none => .error (.defect .pastTheEnd)

/-- Whether no token is left at an index, or a group closes there. -/
def atGroupEnd (tokens : List Token) (index : Nat) : Bool :=
  match tokens[index]? with
  | none => true
  | some token => token.kind = .closeGroup

/-- The comparator with a given symbol. -/
def comparatorOf (text : Text) : Except Stop Comparator :=
  match Comparator.ofSymbol? text with
  | some comparator => .ok comparator
  | none => .error (.defect .noComparator)

/-- The connective with a given keyword, letter case ignored. -/
def connectiveOf (text : Text) : Except Stop Connective :=
  match Connective.named? (upper text) with
  | some connective => .ok connective
  | none => .error (.defect .noConnective)

/-- A literal that `comparator` may stand before, and the index behind it. -/
def literalAt (tokens : List Token) (comparator : Comparator) (index : Nat) :
    Except Stop (Text × Nat) :=
  match tokens[index]? with
  | none => reject (.expecting .badLiteral [] "quoted string or number")
  | some token => do
    let (_, index) ← advance tokens index
    match token.kind with
    | .comparator => reject ⟨.badComparator, some (comparator.symbol ++ token.text), none⟩
    | .string =>
      if comparator.comparesStrings then .ok (token.text, index)
      else reject (.expecting .badComparator comparator.symbol Comparator.stringHint)
    | .number =>
      if ! comparator.comparesNumbers then
        reject (.expecting .badComparator comparator.symbol Comparator.numberHint)
      else if isBoundedNumber token.text then .ok (token.text, index)
      else
        reject (.expecting .badLiteral token.text "at most 15 integer and 15 fractional digits")
    | _ => reject (.expecting .badLiteral token.text "quoted string or number")

/-- A comparator and a literal that follow a column, and the index behind them. -/
def comparisonAt (tokens : List Token) (column : Text) (index : Nat) :
    Except Stop (Clause × Nat) :=
  match tokens[index]? with
  | none => reject (.expecting .malformed column "comparator")
  | some token =>
    if token.kind = .comparator then do
      let (_, index) ← advance tokens index
      let comparator ← comparatorOf token.text
      let (literal, index) ← literalAt tokens comparator index
      .ok (⟨column, comparator, literal⟩, index)
    else reject (.expecting .malformed token.text "comparator")

/-- A condition, and the index behind it. -/
def clauseAt (source : Text) (tokens : List Token) (index : Nat) : Except Stop (Clause × Nat) :=
  match tokens[index]? with
  | none => reject (.expecting .malformed source "column")
  | some token => do
    let (_, index) ← advance tokens index
    match token.kind with
    | .identifier => comparisonAt tokens token.text index
    | .connective => reject (.expecting .cardinalityMismatch token.text "column")
    | _ => reject (.expecting .malformed token.text "column")

/-- A connective between two operands, and the index behind it. -/
def connectiveAt (tokens : List Token) (index : Nat) : Except Stop (Connective × Nat) := do
  let (token, index) ← advance tokens index
  match token.kind with
  | .connective =>
    if atGroupEnd tokens index then
      reject (.expecting .cardinalityMismatch token.text "condition")
    else if token.spacedBefore && token.spacedAfter then do
      let connective ← connectiveOf token.text
      .ok (connective, index)
    else reject (.expecting .malformed token.text "whitespace around connective")
  | _ => reject (.expecting .cardinalityMismatch token.text "AND or OR")

/-- The cursor behind a condition. -/
def condition (source : Text) (tokens : List Token) (cursor : Cursor) : Except Stop Cursor := do
  let (clause, index) ← clauseAt source tokens cursor.index
  .ok { cursor with index, clauses := cursor.clauses ++ [clause] }

/-- The cursor behind a group, the `opening` of which is next. The `expression` inside is read by
the caller. -/
def group (tokens : List Token) (opening : Token) (expression : Cursor → Except Stop Cursor)
    (cursor : Cursor) : Except Stop Cursor :=
  if maxDepth ≤ cursor.depth then
    reject (.expecting .malformed opening.text "at most 32 nested groups")
  else do
    let (_, index) ← advance tokens cursor.index
    let first := cursor.clauses.length
    let cursor ← expression { cursor with index, depth := cursor.depth + 1 }
    match tokens[cursor.index]? with
    | none => reject (.expecting .malformed opening.text "closing parenthesis")
    | some _ =>
      let (_, index) ← advance tokens cursor.index
      .ok { cursor with
        index
        depth := cursor.depth - 1
        groups := cursor.groups ++ [⟨first, (cursor.clauses.length : Int) - 1⟩] }

/-- The cursor behind an operand. -/
def operand (source : Text) (tokens : List Token) (expression : Cursor → Except Stop Cursor)
    (cursor : Cursor) : Except Stop Cursor :=
  match tokens[cursor.index]? with
  | none => condition source tokens cursor
  | some token =>
    if token.kind = .openGroup then group tokens token expression cursor
    else condition source tokens cursor

/-- The cursor behind an operand and those joined to it. -/
def joined (tokens : List Token) (expression : Cursor → Except Stop Cursor) (cursor : Cursor) :
    Except Stop Cursor :=
  if atGroupEnd tokens cursor.index then .ok cursor
  else do
    let (connective, index) ← connectiveAt tokens cursor.index
    expression { cursor with index, connectives := cursor.connectives ++ [connective] }

/-- The cursor behind an expression, for which no more than `turns` operands may be read. -/
def expression (source : Text) (tokens : List Token) : (turns : Nat) → Cursor → Except Stop Cursor
  | 0, _ => .error (.defect .standstill)
  | turns + 1, cursor =>
    if maxDepth < cursor.depth then .error (.defect .tooDeep)
    else do
      let cursor ← operand source tokens (expression source tokens turns) cursor
      joined tokens (expression source tokens turns) cursor

/-- The conditions, connectives and groups that all tokens of a filter make up. -/
def read (source : Text) (tokens : List Token) :
    Except Stop (List Clause × List Connective × List Span) :=
  if tokens = [] then reject (.expecting .malformed source "condition")
  else do
    let cursor ← expression source tokens (tokens.length + 1) ⟨0, 0, [], [], []⟩
    match tokens[cursor.index]? with
    | none => .ok (cursor.clauses, cursor.connectives, cursor.groups)
    | some token => reject (.expecting .malformed token.text "matching opening parenthesis")

/-! ## Agreement with the library -/

/-- Tokens stand for what their texts say. -/
def Meant (tokens : List Filter.Token) : Prop :=
  ∀ token ∈ tokens,
    (∀ comparator, token.kind = .comparator comparator → token.text = comparator.symbol) ∧
    ∀ connective, token.kind = .connective connective → upper token.text = connective.keyword

/-- The tokens of a text stand for what their texts say. -/
theorem meant_of_scans {position : Nat} {text : Text} {tokens : List Filter.Token}
    (scans : Scans position text tokens) : Meant tokens := by
  induction scans with
  | blanks blank => simp [Meant]
  | token blank shape boundary later ih =>
    refine List.forall_mem_cons.2 ⟨⟨?_, ?_⟩, ih⟩
    · rintro comparator rfl
      cases shape with
      | comparator => rfl
    · rintro connective rfl
      cases shape with
      | connective word keyword => exact (upper_of_word word.word).trans keyword

/-- The comparator of a symbol is found. -/
theorem comparatorOf_symbol (comparator : Comparator) :
    comparatorOf comparator.symbol = .ok comparator := by
  cases comparator <;> rfl

/-- The connective of a keyword is found in every letter case. -/
theorem connectiveOf_keyword {connective : Connective} {text : Text}
    (keyword : upper text = connective.keyword) : connectiveOf text = .ok connective := by
  rw [connectiveOf, keyword]
  cases connective <;> rfl

/-- A step at an index does what a reader does with the tokens from there on: both reject for the
same reason, or what the step ends in is what the reader finds and where its tokens are left. -/
def Follows {α β : Type} {holds : α × List Filter.Token → Prop} (source : List Filter.Token)
    (value : α → Nat → β) (outcome : Except Stop β) :
    Except Rejection { step : α × List Filter.Token // holds step } → Prop
  | .error rejection => outcome = reject rejection
  | .ok ⟨(a, left), _⟩ => ∃ index, source.drop index = left ∧ outcome = .ok (value a index)

variable {α β γ δ : Type} {source : List Filter.Token} {index : Nat}

/-- Two steps follow two readers if each follows its own. -/
theorem Follows.bind {holds : α × List Filter.Token → Prop}
    {later : γ × List Filter.Token → Prop} {value : α → Nat → β} {valueLater : γ → Nat → δ}
    {outcome : Except Stop β} {next : β → Except Stop δ}
    {reader : Except Rejection { step : α × List Filter.Token // holds step }}
    {readerNext : { step : α × List Filter.Token // holds step } →
      Except Rejection { step : γ × List Filter.Token // later step }}
    (follows : Follows source value outcome reader)
    (followsNext : ∀ a left proof index, source.drop index = left →
      Follows source valueLater (next (value a index)) (readerNext ⟨(a, left), proof⟩)) :
    Follows source valueLater (outcome >>= next) (reader >>= readerNext) := by
  cases reader with
  | error rejection =>
    have same : outcome = reject rejection := follows
    rw [same]
    rfl
  | ok step =>
    obtain ⟨⟨a, left⟩, proof⟩ := step
    obtain ⟨index, here, rfl⟩ := follows
    exact followsNext a left proof index here

/-- A step follows what is made of a reader that it follows. -/
theorem Follows.map {holds : α × List Filter.Token → Prop}
    {later : γ × List Filter.Token → Prop} {value : α → Nat → β} {valueLater : γ → Nat → β}
    {outcome : Except Stop β}
    {reader : Except Rejection { step : α × List Filter.Token // holds step }}
    {readerNext : { step : α × List Filter.Token // holds step } →
      Except Rejection { step : γ × List Filter.Token // later step }}
    (follows : Follows source value outcome reader)
    (followsNext : ∀ a left proof index, source.drop index = left →
      Follows source valueLater (.ok (value a index)) (readerNext ⟨(a, left), proof⟩)) :
    Follows source valueLater outcome (reader >>= readerNext) := by
  rw [← bind_pure outcome]
  exact follows.bind followsNext

/-- No token is at an index if none is left there. -/
theorem getElem?_of_nil (here : source.drop index = []) :
    (source.map Token.of)[index]? = none := by
  simpa using List.drop_eq_nil_iff.1 here

section First

variable {token : Filter.Token} {rest : List Filter.Token}

/-- The token at an index is the first one that is left there. -/
theorem getElem?_of_cons (here : source.drop index = token :: rest) :
    (source.map Token.of)[index]? = some (Token.of token) := by
  rw [List.getElem?_map, ← List.head?_drop, here]
  rfl

/-- A token that is left is taken. -/
theorem advance_of_cons (here : source.drop index = token :: rest) :
    advance (source.map Token.of) index = .ok (Token.of token, index + 1) := by
  rw [advance, getElem?_of_cons here]

/-- Behind a token the others are left. -/
theorem drop_succ_of_cons (here : source.drop index = token :: rest) :
    source.drop (index + 1) = rest := by
  rw [← List.drop_drop, here]
  rfl

/-- What is left are tokens. -/
theorem mem_of_cons (here : source.drop index = token :: rest) : token ∈ source :=
  List.mem_of_mem_drop (here ▸ List.mem_cons_self)

end First

/-- A group ends at an index exactly if it does in the tokens that are left. -/
theorem atGroupEnd_eq {rest : List Filter.Token} (here : source.drop index = rest) :
    atGroupEnd (source.map Token.of) index = Tree.atGroupEnd rest := by
  cases rest with
  | nil => rw [atGroupEnd, getElem?_of_nil here, Tree.atGroupEnd]
  | cons token rest =>
    rw [atGroupEnd, getElem?_of_cons here, Bool.eq_iff_iff]
    cases kind : token.kind <;> simp [Tree.atGroupEnd, Token.of, kind, Kind.of]

/-- A literal is read as the library reads it. -/
theorem literalAt_follows {comparator : Comparator} {rest : List Filter.Token}
    (here : source.drop index = rest) :
    Follows source Prod.mk (literalAt (source.map Token.of) comparator index)
      (Tree.literalAfter comparator rest) := by
  cases rest with
  | nil =>
    rw [literalAt, getElem?_of_nil here]
    rfl
  | cons token rest =>
    rw [literalAt, getElem?_of_cons here, advance_of_cons here, Tree.literalAfter]
    simp only [Token.of]
    cases token.kind with
    | string =>
      cases comparator.comparesStrings with
      | true => exact ⟨index + 1, drop_succ_of_cons here, rfl⟩
      | false => rfl
    | number =>
      cases comparator.comparesNumbers with
      | true =>
        by_cases bounded : isBoundedNumber token.text = true
        · simp only [bounded]
          exact ⟨index + 1, drop_succ_of_cons here, rfl⟩
        · simp only [bounded]
          rfl
      | false => rfl
    | _ => rfl

/-- A comparator and a literal are read as the library reads them. -/
theorem comparisonAt_follows {column : Text} {rest : List Filter.Token} (meant : Meant source)
    (here : source.drop index = rest) :
    Follows source Prod.mk (comparisonAt (source.map Token.of) column index)
      (Tree.comparisonAfter column rest) := by
  cases rest with
  | nil =>
    rw [comparisonAt, getElem?_of_nil here]
    rfl
  | cons token rest =>
    rw [comparisonAt, getElem?_of_cons here, advance_of_cons here, Tree.comparisonAfter]
    obtain ⟨kind, text, position, spacedBefore, spacedAfter⟩ := token
    cases kind with
    | comparator comparator =>
      obtain rfl : text = comparator.symbol := (meant _ (mem_of_cons here)).1 comparator rfl
      simp only [Token.of, Kind.of, if_true, comparatorOf_symbol]
      exact (literalAt_follows (drop_succ_of_cons here)).bind
        fun literal left fewer index here => ⟨index, here, rfl⟩
    | _ => rfl

/-- A condition is read as the library reads it. -/
theorem clauseAt_follows {raw : Text} {token : Filter.Token} {rest : List Filter.Token}
    (meant : Meant source) (here : source.drop index = token :: rest) :
    Follows source Prod.mk (clauseAt raw (source.map Token.of) index)
      (Tree.clauseFrom token rest) := by
  rw [clauseAt, getElem?_of_cons here, advance_of_cons here, Tree.clauseFrom]
  simp only [Token.of]
  cases token.kind with
  | identifier => exact comparisonAt_follows meant (drop_succ_of_cons here)
  | _ => rfl

/-- A connective is read as the library reads it. -/
theorem connectiveAt_eq {token : Filter.Token} {rest : List Filter.Token}
    (meant : Meant source) (here : source.drop index = token :: rest) :
    connectiveAt (source.map Token.of) index =
      (sound (Tree.connectiveBefore token rest)).map (·, index + 1) := by
  have ends := atGroupEnd_eq (drop_succ_of_cons here)
  rw [connectiveAt, advance_of_cons here, Tree.connectiveBefore]
  obtain ⟨kind, text, position, spacedBefore, spacedAfter⟩ := token
  cases kind with
  | connective connective =>
    have keyword := (meant _ (mem_of_cons here)).2 connective rfl
    simp only [Token.of, Kind.of, bind, Except.bind, connectiveOf_keyword keyword, ends]
    cases Tree.atGroupEnd rest with
    | true => rfl
    | false => cases spacedBefore <;> cases spacedAfter <;> rfl
  | _ => rfl

/-- A cursor that has passed a tree and stands at an index. -/
def Cursor.past (cursor : Cursor) (tree : Tree) (index : Nat) : Cursor where
  index
  depth := cursor.depth
  clauses := cursor.clauses ++ tree.clauses
  connectives := cursor.connectives ++ tree.connectives
  groups := cursor.groups ++ tree.spansFrom cursor.clauses.length

/-- A cursor that has passed a connective and stands at an index. -/
def Cursor.behind (cursor : Cursor) (connective : Connective) (index : Nat) : Cursor :=
  { cursor with index, connectives := cursor.connectives ++ [connective] }

/-- Passing a condition appends it. -/
theorem Cursor.past_clause (cursor : Cursor) (clause : Clause) (index : Nat) :
    cursor.past (.clause clause) index =
      { cursor with index, clauses := cursor.clauses ++ [clause] } := by
  simp [past, Tree.clauses, Tree.connectives, Tree.spansFrom]

/-- Passing a group is passing the tree inside it, one level deeper, and appending its span. -/
theorem Cursor.past_group (cursor : Cursor) (inner : Tree) (first last index : Nat) :
    let inside := { cursor with index := first, depth := cursor.depth + 1 }.past inner last
    cursor.past (.group inner) index =
      { inside with
        index
        depth := inside.depth - 1
        groups := inside.groups ++
          [⟨cursor.clauses.length, (inside.clauses.length : Int) - 1⟩] } := by
  simp [past, Tree.clauses, Tree.connectives, Tree.spansFrom, Tree.spanAt]

/-- Passing an operand, a connective and a tree is passing the tree that they make up. -/
theorem Cursor.past_joined (cursor : Cursor) (operand : Tree.Operand) (connective : Connective)
    (rest : Tree) (first second third : Nat) :
    ((cursor.past operand.alone first).behind connective second).past rest third =
      cursor.past (operand.joined connective rest) third := by
  cases operand <;>
    simp [past, behind, Tree.Operand.alone, Tree.Operand.joined, Tree.clauses, Tree.connectives,
      Tree.spansFrom]

/-- A cursor behind an operand goes on as the library does, if expressions are read as the library
reads them. -/
theorem joined_follows {cursor : Cursor} {operand : Tree.Operand} {rest : List Filter.Token}
    {expression : Cursor → Except Stop Cursor}
    {chain : (after : List Filter.Token) → after.length < rest.length →
      Except Rejection (Tree.Step Tree after)}
    (meant : Meant source) (here : source.drop index = rest)
    (follows : ∀ connective after shorter next, source.drop next = after →
      Follows source ((cursor.past operand.alone index).behind connective next).past
        (expression ((cursor.past operand.alone index).behind connective next))
        (chain after shorter)) :
    Follows source cursor.past
      (joined (source.map Token.of) expression (cursor.past operand.alone index))
      (Tree.chainFrom operand rest chain) := by
  have ends := atGroupEnd_eq here
  have stands : (cursor.past operand.alone index).index = index := rfl
  rw [joined, stands, ends]
  cases rest with
  | nil => exact ⟨index, here, rfl⟩
  | cons token rest =>
    by_cases closes : token.kind = .closeGroup
    · simp only [Tree.atGroupEnd, Tree.chainFrom, closes]
      exact ⟨index, here, rfl⟩
    · rw [connectiveAt_eq meant here]
      simp only [Tree.atGroupEnd, Tree.chainFrom, closes]
      cases Tree.connectiveBefore token rest with
      | error rejection => rfl
      | ok connective =>
        have shorter : rest.length < (token :: rest).length := by simp
        have readRest := follows connective rest shorter (index + 1) (drop_succ_of_cons here)
        exact readRest.map fun chain left fewer last here =>
          ⟨last, here, by rw [Cursor.past_joined]⟩

/-- Where groups are not nested too deep, an expression is an operand and those joined to it. -/
theorem expression_succ {raw : Text} {tokens : List Token} {cursor : Cursor} (turns : Nat)
    (shallow : cursor.depth ≤ maxDepth) :
    expression raw tokens (turns + 1) cursor =
      operand raw tokens (expression raw tokens turns) cursor >>=
        joined tokens (expression raw tokens turns) := by
  rw [expression, if_neg (by omega)]

/-- An expression is read as the library reads it, if there are more turns than tokens. -/
theorem expression_follows {raw : Text} {room turns : Nat} {rest : List Filter.Token}
    {cursor : Cursor} (meant : Meant source) (here : source.drop cursor.index = rest)
    (nested : cursor.depth + room = maxDepth) (enough : rest.length ≤ turns) :
    Follows source cursor.past (expression raw (source.map Token.of) (turns + 1) cursor)
      (Tree.chain raw room rest) := by
  have shallow : cursor.depth ≤ maxDepth := by omega
  induction room, rest using Tree.chain.induct generalizing turns cursor with
  | case1 room =>
    rw [expression_succ turns shallow, operand, getElem?_of_nil here, condition, clauseAt,
      getElem?_of_nil here, Tree.chain]
    rfl
  | case2 first later opens =>
    have full : maxDepth ≤ cursor.depth := by omega
    have isOpen : (Token.of first).kind = .openGroup := by simp [Token.of, opens, Kind.of]
    rw [expression_succ turns shallow, operand, getElem?_of_cons here, Tree.chain, if_pos opens,
      if_pos rfl]
    simp only [isOpen, if_true, group, full]
    rfl
  | case3 room first later opens nonzero ihInner ihRest =>
    obtain ⟨turns, rfl⟩ : ∃ fewer, turns = fewer + 1 := ⟨turns - 1, by simp at enough; omega⟩
    have spare : ¬ maxDepth ≤ cursor.depth := by omega
    have isOpen : (Token.of first).kind = .openGroup := by simp [Token.of, opens, Kind.of]
    rw [expression_succ _ shallow, operand, getElem?_of_cons here, Tree.chain, if_pos opens,
      if_neg nonzero]
    simp only [isOpen, if_true, group, spare, if_false, advance_of_cons here]
    have readInner : Follows source
        (Cursor.past { cursor with index := cursor.index + 1, depth := cursor.depth + 1 })
        (expression raw (source.map Token.of) (turns + 1)
          { cursor with index := cursor.index + 1, depth := cursor.depth + 1 })
        (Tree.chain raw (room - 1) later) :=
      ihInner (drop_succ_of_cons here) (by simp; omega) (by simp at enough; omega) (by simp; omega)
    show Follows source cursor.past ((expression raw (source.map Token.of) (turns + 1)
      { cursor with index := cursor.index + 1, depth := cursor.depth + 1 } >>= _) >>= _) _
    rw [bind_assoc]
    refine readInner.bind fun inner left fewer last here => ?_
    cases left with
    | nil =>
      simp only [Cursor.past, getElem?_of_nil here]
      rfl
    | cons closing left =>
      have readRest : Follows source cursor.past
          (joined (source.map Token.of) (expression raw (source.map Token.of) (turns + 1))
            (cursor.past (Tree.Operand.group inner).alone (last + 1)))
          (Tree.chainFrom (.group inner) left fun after _ => Tree.chain raw room after) := by
        refine joined_follows meant (drop_succ_of_cons here) ?_
        intro connective after shorter next here
        exact ihRest inner [] closing left fewer after shorter here nested
          (by simp at enough fewer; omega) shallow
      rw [Tree.Operand.alone, Cursor.past_group cursor inner (cursor.index + 1) last] at readRest
      simp only [Cursor.past, getElem?_of_cons here, advance_of_cons here] at readRest ⊢
      exact readRest.map fun chain left fewer last here => ⟨last, here, rfl⟩
  | case4 room first later plain ih =>
    obtain ⟨turns, rfl⟩ : ∃ fewer, turns = fewer + 1 := ⟨turns - 1, by simp at enough; omega⟩
    have noOpen : (Token.of first).kind ≠ .openGroup := by
      cases kind : first.kind <;> simp_all [Token.of, Kind.of]
    rw [expression_succ _ shallow, operand, getElem?_of_cons here, Tree.chain, if_neg plain]
    simp only [noOpen, if_false, condition, bind_assoc]
    refine (clauseAt_follows meant here).bind fun clause left fewer index here => ?_
    have readRest : Follows source cursor.past
        (joined (source.map Token.of) (expression raw (source.map Token.of) (turns + 1))
          (cursor.past (Tree.Operand.clause clause).alone index))
        (Tree.chainFrom (.clause clause) left fun after _ => Tree.chain raw room after) := by
      refine joined_follows meant here fun connective after shorter next here => ?_
      exact ih clause left fewer after shorter here nested (by simp at enough fewer; omega) shallow
    rw [Tree.Operand.alone, Cursor.past_clause] at readRest
    exact readRest.map fun chain left fewer last here => ⟨last, here, rfl⟩

/-- Reading tokens that stand for what their texts say leads to no defect, and finds the conditions,
connectives and groups of the tree that the library finds. -/
theorem read_eq (raw : Text) (meant : Meant source) :
    read raw (source.map Token.of) =
      sound ((Tree.ofTokens raw source).map fun tree =>
        (tree.clauses, tree.connectives, tree.spansFrom 0)) := by
  rw [read, Tree.ofTokens]
  simp only [List.map_eq_nil_iff, List.length_map]
  by_cases none : source = []
  · rw [if_pos none, if_pos none]
    rfl
  · rw [if_neg none, if_neg none]
    have follows : Follows source (Cursor.past ⟨0, 0, [], [], []⟩)
        (expression raw (source.map Token.of) (source.length + 1) ⟨0, 0, [], [], []⟩)
        (Tree.chain raw maxDepth source) :=
      expression_follows meant List.drop_zero (Nat.zero_add _) (Nat.le_refl _)
    cases chain : Tree.chain raw maxDepth source with
    | error rejection =>
      rw [chain] at follows
      have same : expression _ _ _ _ = reject rejection := follows
      rw [same]
      rfl
    | ok step =>
      obtain ⟨⟨tree, left⟩, fewer⟩ := step
      rw [chain] at follows
      obtain ⟨index, here, same⟩ := follows
      rw [same]
      cases left with
      | nil =>
        simp only [Cursor.past, bind, Except.bind, getElem?_of_nil here]
        rfl
      | cons token left =>
        simp only [Cursor.past, bind, Except.bind, getElem?_of_cons here]
        rfl

end ListQuery.Stepwise
