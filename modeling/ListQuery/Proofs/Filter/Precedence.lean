import ListQuery.Proofs.Leftmost
import ListQuery.Proofs.Filter.Descent
import ListQuery.Proofs.Filter.Literal
import ListQuery.Proofs.Filter.Scan
import ListQuery.Proofs.Filter.Tree
import ListQuery.Proofs.Reasons

/-!
# Which fault of a filter is reported

A filter text can be at fault in several places at once. Its tokens come first, then the tree that
they make up, then its columns from left to right, then its literals from left to right. Tokens and
tree do not depend on the allow-list, and no literal that made it into a tree is refused for
anything but double quotes.
-/

namespace ListQuery.Filter

open Text

/-- The literal of every clause of a tree is a token that may stand behind its comparator. -/
theorem Tree.Spells.exists_literal {room : Nat} {tree : Tree} {tokens : List Token}
    (spelled : Spells room tree tokens) {clause : Clause} (member : clause ∈ tree.clauses) :
    ∃ token ∈ tokens, token.text = clause.literal ∧ FitsBehind clause.comparator token := by
  have ofClause : ∀ {clause : Clause} {tokens : List Token}, SpellsClause clause tokens →
      ∃ token ∈ tokens, token.text = clause.literal ∧ FitsBehind clause.comparator token := by
    rintro _ _ ⟨isColumn, isSymbol, fits⟩
    exact ⟨_, by simp, rfl, fits⟩
  induction spelled with
  | clause spelled =>
    cases List.mem_singleton.1 member
    exact ofClause spelled
  | group opens spelled closes ih =>
    obtain ⟨token, inside, isLiteral⟩ := ih member
    exact ⟨token, by simp [inside], isLiteral⟩
  | clauseThen spelled joins spelledRest ih =>
    rcases List.mem_cons.1 member with rfl | behind
    · obtain ⟨token, inside, isLiteral⟩ := ofClause spelled
      exact ⟨token, by simp [inside], isLiteral⟩
    · obtain ⟨token, inside, isLiteral⟩ := ih behind
      exact ⟨token, by simp [inside], isLiteral⟩
  | groupThen opens spelled closes joins spelledRest ihInner ihRest =>
    rcases List.mem_append.1 member with within | behind
    · obtain ⟨token, inside, isLiteral⟩ := ihInner within
      exact ⟨token, by simp [inside], isLiteral⟩
    · obtain ⟨token, inside, isLiteral⟩ := ihRest behind
      exact ⟨token, by simp [inside], isLiteral⟩

/-- A text between double quotes, without another one inside. -/
def IsDoubleQuoted (text : Text) : Prop :=
  ∃ body, Within (· ≠ '\x22') body ∧
    text = CodePoint.scalar '\x22' :: (body ++ [CodePoint.scalar '\x22'])

/-- A token that may stand behind a comparator is no literal exactly if it is double-quoted. -/
theorem Tree.FitsBehind.ofToken?_eq_none_iff {comparator : Comparator} {token : Token}
    (fits : FitsBehind comparator token)
    (shape : Lexeme.Shape (some token.kind) token.text) :
    Literal.ofToken? token.text = none ↔ IsDoubleQuoted token.text := by
  constructor
  · intro unread
    obtain ⟨kind, text, position, before, after⟩ := token
    rcases fits with ⟨rfl, -⟩ | ⟨-, -, bounded⟩
    · cases shape with
      | quoted value => cases (Literal.ofToken?_encode value).symm.trans unread
      | doubleQuoted plain => exact ⟨_, plain, rfl⟩
    · have number := Tree.isBoundedNumber_iff.1 bounded
      simp [Literal.ofToken?_number number] at unread
  · rintro ⟨body, -, isQuoted⟩
    rw [isQuoted]
    exact Literal.ofToken?_doubleQuoted _

/-- A clause without a literal is rejected for double quotes. -/
theorem Condition.ofClause_eq_error {clause : Clause}
    (unread : Literal.ofToken? clause.literal = none) :
    Condition.ofClause clause =
      .error (.expecting .badLiteral clause.literal "single-quoted string or number") := by
  rw [Condition.ofClause, unread]

/-- A clause with a literal is read. -/
theorem Condition.exists_ofClause {clause : Clause}
    (read : Literal.ofToken? clause.literal ≠ none) :
    ∃ condition, Condition.ofClause clause = .ok condition := by
  obtain ⟨literal, isLiteral⟩ := Option.ne_none_iff_exists'.1 read
  exact ⟨_, Condition.ofClause_eq_ok_iff.2 ⟨literal, isLiteral, rfl⟩⟩

section

variable {allowed : AllowList} {tree : Tree} {clause : Clause}

/-- A tree is rejected for its leftmost column that is not in the list. -/
theorem ofTree_of_unlisted
    (leftmost : Leftmost (fun clause => clause.column ∉ allowed) tree.clauses clause) :
    ofTree allowed tree = .error (AllowList.unknownColumn allowed clause.column) := by
  have stopped := AllowList.requireAll_of_leftmost (leftmost.map (f := Clause.column))
  rw [ofTree, stopped]
  rfl

/-- Where all columns are listed, the literals decide. -/
theorem ofTree_of_listed (listed : ∀ clause ∈ tree.clauses, clause.column ∈ allowed) :
    ofTree allowed tree = (tree.clauses.mapM Condition.ofClause).map
      fun conditions => ⟨conditions, tree.connectives, tree.spansFrom 0⟩ := by
  have passed : allowed.requireAll (tree.clauses.map (·.column)) = .ok () :=
    AllowList.requireAll_eq_ok_iff.2 (by simpa using listed)
  rw [ofTree, passed]
  cases tree.clauses.mapM Condition.ofClause <;> rfl

end

/-- A tree is judged by its leftmost column that is not in the list, or else by its leftmost literal
in double quotes, and by nothing else. -/
structure Tree.Judged (tree : Tree) (allowed : AllowList) (outcome : Except Rejection Filter) :
    Prop where
  unlisted : ∀ clause, Leftmost (fun clause => clause.column ∉ allowed) tree.clauses clause →
    outcome = .error
      { reason := .unknownColumn
        token := some clause.column
        expected := some ("one of " ++ Text.join ", " allowed) }
  doubleQuoted : (∀ clause ∈ tree.clauses, clause.column ∈ allowed) →
    ∀ clause, Leftmost (fun clause => IsDoubleQuoted clause.literal) tree.clauses clause →
      outcome = .error
        { reason := .badLiteral
          token := some clause.literal
          expected := some "single-quoted string or number" }
  read : (∀ clause ∈ tree.clauses, clause.column ∈ allowed) →
    (∀ clause ∈ tree.clauses, ¬ IsDoubleQuoted clause.literal) → ∃ filter, outcome = .ok filter

/-- In a tree that tokens of a text spell, a literal is refused exactly for double quotes. -/
theorem Tree.Spells.ofToken?_eq_none_iff {raw : Text} {room : Nat} {tree : Tree}
    {tokens : List Token} (spelled : Spells room tree tokens) (cut : tokenize raw = .ok tokens)
    {clause : Clause} (member : clause ∈ tree.clauses) :
    Literal.ofToken? clause.literal = none ↔ IsDoubleQuoted clause.literal := by
  obtain ⟨token, inside, same, fits⟩ := spelled.exists_literal member
  obtain ⟨-, -, -, -, shape, -⟩ := (tokenize_eq_ok_iff.1 cut).exists_around inside
  rw [← same]
  exact fits.ofToken?_eq_none_iff shape

/-- A tree is judged by its columns and then by its literals if only double quotes make a literal
unreadable. -/
theorem judged_ofTree {allowed : AllowList} {tree : Tree}
    (literals : ∀ clause ∈ tree.clauses,
      Literal.ofToken? clause.literal = none ↔ IsDoubleQuoted clause.literal) :
    tree.Judged allowed (ofTree allowed tree) := by
  have reads : ∀ clause ∈ tree.clauses, ¬ IsDoubleQuoted clause.literal →
      ∃ condition, Condition.ofClause clause = .ok condition :=
    fun clause member plain => Condition.exists_ofClause (mt (literals clause member).1 plain)
  constructor
  · intro clause leftmost
    exact ofTree_of_unlisted leftmost
  · intro listed clause leftmost
    have unread := (literals clause leftmost.mem).2 leftmost.property
    rw [ofTree_of_listed listed,
      mapM_eq_error_of_leftmost leftmost reads (Condition.ofClause_eq_error unread)]
    rfl
  · intro listed plain
    obtain ⟨conditions, read⟩ :=
      exists_mapM_of_forall fun clause member => reads clause member (plain clause member)
    rw [ofTree_of_listed listed, read]
    exact ⟨_, rfl⟩

/-- Faults of a filter text are reported in this order: text that is no token; tokens that make up
no tree, for one of four reasons and whatever columns are allowed; the leftmost column that is not
allowed; the leftmost literal in double quotes, the only literals of a tree that are refused. A
text without any of these faults is read. -/
theorem parse_reports_in_order {raw : Text} (nonempty : raw ≠ []) :
    (∀ rejection, tokenize raw = .error rejection →
      ∀ allowed ≠ [], parse allowed raw = .error rejection) ∧
    ∀ tokens, tokenize raw = .ok tokens →
      ((¬ ∃ tree, Tree.Spells Tree.maxDepth tree tokens) →
        ∃ rejection, rejection.reason ∈
            [Reason.malformed, .cardinalityMismatch, .badComparator, .badLiteral] ∧
          ∀ allowed ≠ [], parse allowed raw = .error rejection) ∧
      ∀ tree, Tree.Spells Tree.maxDepth tree tokens →
        (∀ clause ∈ tree.clauses,
          Literal.ofToken? clause.literal = none ↔ IsDoubleQuoted clause.literal) ∧
        ∀ allowed ≠ [], tree.Judged allowed (parse allowed raw) := by
  constructor
  · intro rejection cut allowed columns
    rw [parse_of_ne_nil columns nonempty, cut]
    rfl
  intro tokens cut
  have parsed : ∀ allowed ≠ [],
      parse allowed raw = Tree.ofTokens raw tokens >>= ofTree allowed := by
    intro allowed columns
    rw [parse_of_ne_nil columns nonempty, cut]
    rfl
  constructor
  · intro unspelled
    cases read : Tree.ofTokens raw tokens with
    | ok tree => exact absurd ⟨tree, Tree.ofTokens_eq_ok_iff.1 read⟩ unspelled
    | error rejection =>
      refine ⟨rejection, (Tree.failsFor_ofTokens raw tokens).of_error read, ?_⟩
      intro allowed columns
      rw [parsed allowed columns, read]
      rfl
  · intro tree spelled
    have literals : ∀ clause ∈ tree.clauses,
        Literal.ofToken? clause.literal = none ↔ IsDoubleQuoted clause.literal :=
      fun clause member => spelled.ofToken?_eq_none_iff cut member
    refine ⟨literals, fun allowed columns => ?_⟩
    rw [parsed allowed columns, Tree.ofTokens_eq_ok_iff.2 spelled]
    exact judged_ofTree literals

/-- Of double quotes on the left and an unlisted column on the right, the column is reported. Where
all columns are listed, the double quotes are. -/
theorem parse_reports_in_order_both :
    ("zip=\x22a b\x22 AND (no>1 OR id='7')" : Text) ≠ [] ∧
      parse ["zip"] "zip=\x22a b\x22 AND (no>1 OR id='7')" =
        .error ⟨.unknownColumn, some "no", some "one of zip"⟩ ∧
      parse ["id", "no", "zip"] "zip=\x22a b\x22 AND (no>1 OR id='7')" =
        .error ⟨.badLiteral, some "\x22a b\x22", some "single-quoted string or number"⟩ := by
  have nonempty : ("zip=\x22a b\x22 AND (no>1 OR id='7')" : Text) ≠ [] := by decide
  have isTree : Tree.ofText "zip=\x22a b\x22 AND (no>1 OR id='7')" =
      .ok (.clauseThen ⟨"zip", .equal, "\x22a b\x22"⟩ .and
        (.group (.clauseThen ⟨"no", .greater, "1"⟩ .or (.clause ⟨"id", .equal, "'7'"⟩)))) := by
    decide +kernel
  obtain ⟨tokens, cut, read⟩ := bind_eq_ok_iff.1 isTree
  have reports := (parse_reports_in_order nonempty).2 tokens cut
  have judged := (reports.2 _ (Tree.ofTokens_eq_ok_iff.1 read)).2
  refine ⟨nonempty, ?_, ?_⟩
  · exact (judged ["zip"] (by decide)).unlisted ⟨"no", .greater, "1"⟩
      (.later (by decide) (.here (by decide)))
  · exact (judged ["id", "no", "zip"] (by decide)).doubleQuoted (by decide)
      ⟨"zip", .equal, "\x22a b\x22"⟩ (.here ⟨"a b", by decide, rfl⟩)

end ListQuery.Filter
