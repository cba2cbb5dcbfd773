import ListQuery.Proofs.Examination
import ListQuery.Proofs.Except
import ListQuery.Proofs.Filter.Lexeme
import ListQuery.Proofs.Text.Encodable

/-!
# What a query leads to can be told

Every text that is read from a query, and every text that blames a part of it, has an encoded form
if the query has one. The only texts of another origin are the columns that a rejection lists, so
nothing but a column of an allow-list keeps a refusal from having an encoded form
(`Query.meets_examine`).
-/

namespace ListQuery

open Text

/-! ## Rejections -/

/-- The texts of a rejection have an encoded form. -/
def Rejection.IsEncodable (rejection : Rejection) : Prop :=
  AllEncodable (rejection.token.toList ++ rejection.expected.toList)

/-- A rejection has an encoded form if the columns of the allow-list have. -/
def Rejection.IsEncodableUnder (allowed : AllowList) (rejection : Rejection) : Prop :=
  AllEncodable allowed → rejection.IsEncodable

section

variable {α : Type} {value : α → Prop} {reason : Reason} {token expected : Text}

/-- What is rejected has an encoded form if what is blamed and what is expected have. -/
theorem meets_expecting (blamed : isEncodable token = true) (hint : isEncodable expected = true) :
    Meets Rejection.IsEncodable value (.error (.expecting reason token expected)) :=
  .error (by simp [Rejection.IsEncodable, AllEncodable, Rejection.expecting, blamed, hint])

/-- What has an encoded form whatever the allow-list, has it under each. -/
theorem Meets.under {outcome : Except Rejection α} (allowed : AllowList)
    (meets : Meets Rejection.IsEncodable value outcome) :
    Meets (Rejection.IsEncodableUnder allowed) value outcome :=
  meets.imp (fun _ encodable _ => encodable) fun _ => id

end

namespace AllowList

variable {allowed : AllowList}

/-- An empty list is rejected without a text. -/
theorem meets_requireNonempty :
    Meets (Rejection.IsEncodableUnder allowed) (fun _ => True) allowed.requireNonempty := by
  unfold requireNonempty
  split
  · exact .error fun _ => by simp [Rejection.IsEncodable, AllEncodable]
  · exact .ok trivial

/-- An unknown column is told with those of the list. -/
theorem meets_require {column : Text} (encodable : isEncodable column = true) :
    Meets (Rejection.IsEncodableUnder allowed) (fun _ => True) (allowed.require column) := by
  unfold require
  split
  · exact .ok trivial
  · refine .error fun listed => ?_
    have expected : isEncodable ("one of " ++ join ", " allowed) = true := by
      simp [isEncodable_join (isEncodable_of ", ") listed]
    simp [unknownColumn, Rejection.expecting, Rejection.IsEncodable, AllEncodable, encodable,
      expected]

/-- The first unknown one of some columns is told with those of the list. -/
theorem meets_requireAll {columns : List Text} (encodable : AllEncodable columns) :
    Meets (Rejection.IsEncodableUnder allowed) (fun _ => True) (allowed.requireAll columns) := by
  induction columns with
  | nil => exact .ok trivial
  | cons column rest ih =>
    obtain ⟨first, others⟩ := List.forall_mem_cons.1 encodable
    exact (meets_require first).bind fun _ _ => ih others

end AllowList

/-! ## Projections and sort orders -/

/-- The columns of a projection, and what it is rejected for, have an encoded form. -/
theorem Fields.meets_parse {allowed : AllowList} {raw : Text} (encodable : isEncodable raw = true) :
    Meets (Rejection.IsEncodableUnder allowed) AllEncodable (parse allowed raw) := by
  have columns : AllEncodable (tokens raw) := by
    intro column member
    obtain ⟨piece, isPiece, rfl⟩ := List.mem_map.1 member
    exact isEncodable_of_subset encodable fun c inside =>
      subset_of_mem_pieces isPiece (mem_of_mem_trim inside)
  refine AllowList.meets_requireNonempty.bind fun _ _ => ?_
  split
  · exact .ok (by simp [AllEncodable])
  · exact (AllowList.meets_requireAll columns).bind fun _ _ => .ok columns

end ListQuery

namespace ListQuery.Sort

open Text

/-- The texts of a part of a sort order have an encoded form. -/
structure Part.IsEncodable (part : Part) : Prop where
  source : isEncodable part.source = true
  column : isEncodable part.column = true
  direction : ∀ direction ∈ part.direction, isEncodable direction = true

/-- The texts of a part of an encodable text have an encoded form. -/
theorem Part.isEncodable_ofText {source : Text} (encodable : isEncodable source = true) :
    (ofText source).IsEncodable := by
  have start : source.dropWhile isBlank ⊆ source := (List.dropWhile_suffix _).subset
  refine ⟨encodable, ?_, ?_⟩
  · exact isEncodable_of_subset encodable fun c inside =>
      start ((List.takeWhile_prefix _).subset inside)
  · intro direction member
    simp only [ofText] at member
    split at member
    · simp at member
    · cases member
      exact isEncodable_of_subset encodable fun c inside =>
        start ((List.dropWhile_suffix _).subset (mem_of_mem_trim inside))

/-- A column and a direction text of an encodable part have an encoded form, and so has what it
is rejected for. -/
theorem Part.meets_directed {part : Part} (encodable : part.IsEncodable) :
    Meets Rejection.IsEncodable
      (fun texts => isEncodable texts.1 = true ∧ isEncodable texts.2 = true) part.directed := by
  unfold directed
  split
  · rename_i direction isDirection
    exact .ok ⟨encodable.column, encodable.direction direction isDirection⟩
  · refine meets_expecting ?_ (isEncodable_of _)
    exact isEncodable_of_subset encodable.source fun c => mem_of_mem_trim

/-- The column of a sort key, and what its direction is rejected for, have an encoded form. -/
theorem Key.meets_ofTexts {column direction : Text} (isColumn : isEncodable column = true)
    (isDirection : isEncodable direction = true) :
    Meets Rejection.IsEncodable (fun key => isEncodable key.column = true)
      (ofTexts column direction) := by
  unfold ofTexts
  split
  · exact .ok isColumn
  · exact meets_expecting isDirection (isEncodable_of _)

/-- The columns of a sort order, and what it is rejected for, have an encoded form. -/
theorem meets_parse {allowed : AllowList} {raw : Text} (encodable : isEncodable raw = true) :
    Meets (Rejection.IsEncodableUnder allowed)
      (fun keys => ∀ key ∈ keys, isEncodable key.column = true) (parse allowed raw) := by
  have partsEncodable : ∀ part ∈ parts raw, part.IsEncodable := by
    intro part member
    obtain ⟨piece, isPiece, rfl⟩ := List.mem_map.1 member
    exact Part.isEncodable_ofText (isEncodable_of_subset encodable (subset_of_mem_pieces isPiece))
  have columns : AllEncodable ((parts raw).map Part.column) := by
    intro column member
    obtain ⟨part, isPart, rfl⟩ := List.mem_map.1 member
    exact (partsEncodable part isPart).column
  refine AllowList.meets_requireNonempty.bind fun _ _ => ?_
  split
  · exact .ok (by simp)
  · refine (AllowList.meets_requireAll columns).bind fun _ _ => Meets.under allowed ?_
    refine (Meets.mapM fun part isPart => Part.meets_directed (partsEncodable part isPart)).bind ?_
    intro directed each
    exact Meets.mapM fun texts member =>
      Key.meets_ofTexts (each texts member).1 (each texts member).2

end ListQuery.Sort

namespace ListQuery

open Text

/-! ## Filters -/

namespace Filter

/-- The texts of tokens have an encoded form. -/
def TokensEncodable (tokens : List Token) : Prop :=
  ∀ token ∈ tokens, isEncodable token.text = true

/-- The texts of a clause have an encoded form. -/
structure Clause.IsEncodable (clause : Clause) : Prop where
  column : isEncodable clause.column = true
  literal : isEncodable clause.literal = true

/-- The clauses of a tree have an encoded form. -/
def Tree.IsEncodable (tree : Tree) : Prop :=
  ∀ clause ∈ tree.clauses, clause.IsEncodable

/-- The lexemes of an encodable text have an encoded form, and so has what it is rejected for. -/
theorem Lexeme.meets_ofText {text : Text} (encodable : isEncodable text = true) :
    Meets Rejection.IsEncodable (fun lexemes => ∀ lexeme ∈ lexemes, isEncodable lexeme.text = true)
      (ofText text) := by
  induction text using ofText.induct with
  | case1 =>
    rw [ofText_nil]
    exact .ok (by simp)
  | case2 text nonempty none =>
    rw [ofText, if_neg nonempty]
    split
    · exact meets_expecting encodable (isEncodable_of _)
    · simp_all
  | case3 text nonempty lexeme rest taken ih =>
    rw [ofText, if_neg nonempty]
    split
    · simp_all
    · rename_i first left takenFirst
      cases taken.symm.trans takenFirst
      rw [(next?_sound taken).parts, isEncodable_append, Bool.and_eq_true] at encodable
      exact (ih encodable.2).map fun _ later => List.forall_mem_cons.2 ⟨encodable.1, later⟩

/-- The tokens among encodable lexemes have an encoded form. -/
theorem Lexeme.tokensEncodable_tokens {lexemes : List Lexeme}
    (encodable : ∀ lexeme ∈ lexemes, isEncodable lexeme.text = true) (position : Nat)
    (spaced : Bool) : TokensEncodable (tokens position spaced lexemes) := by
  induction lexemes generalizing position spaced with
  | nil => simp [tokens, TokensEncodable]
  | cons lexeme rest ih =>
    obtain ⟨first, others⟩ := List.forall_mem_cons.1 encodable
    rw [tokens]
    split
    · exact ih others _ _
    · exact List.forall_mem_cons.2 ⟨first, ih others _ _⟩

/-- The tokens of an encodable text have an encoded form, and so has what it is rejected for. -/
theorem meets_tokenize {raw : Text} (encodable : isEncodable raw = true) :
    Meets Rejection.IsEncodable TokensEncodable (tokenize raw) :=
  (Lexeme.meets_ofText encodable).map fun _ lexemes => Lexeme.tokensEncodable_tokens lexemes 0 false

namespace Tree

/-- The symbol of a comparator is encodable. -/
theorem isEncodable_symbol (comparator : Comparator) : isEncodable comparator.symbol = true := by
  cases comparator <;> rfl

variable {tokens : List Token}

/-- A literal that is read has an encoded form, and so has what it is rejected for. -/
theorem meets_literalAfter {comparator : Comparator} (encodable : TokensEncodable tokens) :
    Meets Rejection.IsEncodable
      (fun step => isEncodable step.val.1 = true ∧ TokensEncodable step.val.2)
      (literalAfter comparator tokens) := by
  have symbol := isEncodable_symbol comparator
  cases tokens with
  | nil => exact meets_expecting rfl (isEncodable_of _)
  | cons token rest =>
    obtain ⟨first, others⟩ := List.forall_mem_cons.1 encodable
    unfold literalAfter
    dsimp only
    split
    · refine .error ?_
      simp [Rejection.IsEncodable, AllEncodable, symbol, first]
    · split
      · exact .ok ⟨first, others⟩
      · exact meets_expecting symbol (isEncodable_of _)
    · split
      · exact meets_expecting symbol (isEncodable_of _)
      · split
        · exact .ok ⟨first, others⟩
        · exact meets_expecting first (isEncodable_of _)
    · exact meets_expecting first (isEncodable_of _)

/-- A comparison that is read has an encoded form, and so has what it is rejected for. -/
theorem meets_comparisonAfter {column : Text} (isColumn : isEncodable column = true)
    (encodable : TokensEncodable tokens) :
    Meets Rejection.IsEncodable
      (fun step => step.val.1.IsEncodable ∧ TokensEncodable step.val.2)
      (comparisonAfter column tokens) := by
  cases tokens with
  | nil => exact meets_expecting isColumn (isEncodable_of _)
  | cons token rest =>
    obtain ⟨first, others⟩ := List.forall_mem_cons.1 encodable
    unfold comparisonAfter
    dsimp only
    split
    · exact (meets_literalAfter others).bind fun step ⟨literal, left⟩ =>
        .ok ⟨⟨isColumn, literal⟩, left⟩
    · exact meets_expecting first (isEncodable_of _)

/-- A clause that is read has an encoded form, and so has what it is rejected for. -/
theorem meets_clauseFrom {first : Token} (isFirst : isEncodable first.text = true)
    (encodable : TokensEncodable tokens) :
    Meets Rejection.IsEncodable
      (fun step => step.val.1.IsEncodable ∧ TokensEncodable step.val.2)
      (clauseFrom first tokens) := by
  unfold clauseFrom
  split
  · exact meets_comparisonAfter isFirst encodable
  · exact meets_expecting isFirst (isEncodable_of _)
  · exact meets_expecting isFirst (isEncodable_of _)

/-- What a connective is rejected for has an encoded form. -/
theorem meets_connectiveBefore {token : Token} (isToken : isEncodable token.text = true) :
    Meets Rejection.IsEncodable (fun _ => True) (connectiveBefore token tokens) := by
  unfold connectiveBefore
  split
  · split
    · exact meets_expecting isToken (isEncodable_of _)
    · split
      · exact .ok trivial
      · exact meets_expecting isToken (isEncodable_of _)
  · exact meets_expecting isToken (isEncodable_of _)

/-- An operand has an encoded form if the chain of it alone has. -/
theorem isEncodable_joined {operand : Operand} {connective : Connective} {rest : Tree}
    (first : operand.alone.IsEncodable) (others : rest.IsEncodable) :
    (operand.joined connective rest).IsEncodable := by
  cases operand with
  | clause clause =>
    exact List.forall_mem_cons.2 ⟨first clause List.mem_cons_self, others⟩
  | group inner => exact List.forall_mem_append.2 ⟨first, others⟩

/-- A chain that goes on behind an operand has an encoded form, and so has what it is rejected for,
if that is so of what is read behind the connective. -/
theorem meets_chainFrom {operand : Operand}
    {expression : (rest : List Token) → rest.length < tokens.length →
      Except Rejection (Step Tree rest)}
    (isOperand : operand.alone.IsEncodable) (encodable : TokensEncodable tokens)
    (meets : ∀ rest shorter, TokensEncodable rest →
      Meets Rejection.IsEncodable
        (fun step => step.val.1.IsEncodable ∧ TokensEncodable step.val.2)
        (expression rest shorter)) :
    Meets Rejection.IsEncodable
      (fun step => step.val.1.IsEncodable ∧ TokensEncodable step.val.2)
      (chainFrom operand tokens expression) := by
  cases tokens with
  | nil => exact .ok ⟨isOperand, encodable⟩
  | cons token rest =>
    obtain ⟨first, others⟩ := List.forall_mem_cons.1 encodable
    unfold chainFrom
    dsimp only
    split
    · exact .ok ⟨isOperand, encodable⟩
    · refine (meets_connectiveBefore first).bind fun connective _ => ?_
      exact (meets rest (by simp) others).bind fun step ⟨chain, left⟩ =>
        .ok ⟨isEncodable_joined isOperand chain, left⟩

/-- A tree that is read has an encoded form, and so has what it is rejected for. -/
theorem meets_chain {source : Text} {room : Nat} (isSource : isEncodable source = true)
    (encodable : TokensEncodable tokens) :
    Meets Rejection.IsEncodable
      (fun step => step.val.1.IsEncodable ∧ TokensEncodable step.val.2)
      (chain source room tokens) := by
  induction room, tokens using chain.induct with
  | case1 room =>
    rw [chain]
    exact meets_expecting isSource (isEncodable_of _)
  | case2 first later opens =>
    rw [chain, if_pos opens, if_pos rfl]
    exact meets_expecting (encodable first List.mem_cons_self) (isEncodable_of _)
  | case3 room first later opens nonzero ihInner ihRest =>
    obtain ⟨isFirst, others⟩ := List.forall_mem_cons.1 encodable
    rw [chain, if_pos opens, if_neg nonzero]
    refine (ihInner others).bind ?_
    rintro ⟨⟨inner, rest⟩, fewer⟩ ⟨isInner, left⟩
    cases rest with
    | nil => exact meets_expecting isFirst (isEncodable_of _)
    | cons closing rest =>
      have behind : TokensEncodable rest := (List.forall_mem_cons.1 left).2
      have isGroup : (Operand.group inner).alone.IsEncodable := isInner
      refine (meets_chainFrom isGroup behind fun after shorter isAfter => ?_).bind
        fun step met => .ok met
      exact ihRest inner [] closing rest fewer after shorter isAfter
  | case4 room first later plain ih =>
    obtain ⟨isFirst, others⟩ := List.forall_mem_cons.1 encodable
    rw [chain, if_neg plain]
    refine (meets_clauseFrom isFirst others).bind ?_
    rintro ⟨⟨clause, rest⟩, fewer⟩ ⟨isClause, left⟩
    have isOperand : (Operand.clause clause).alone.IsEncodable := fun other member =>
      List.mem_singleton.1 member ▸ isClause
    refine (meets_chainFrom isOperand left fun after shorter isAfter => ?_).bind
      fun step met => .ok met
    exact ih clause rest fewer after shorter isAfter

/-- The tree of all tokens has an encoded form, and so has what they are rejected for. -/
theorem meets_ofTokens {source : Text} (isSource : isEncodable source = true)
    (encodable : TokensEncodable tokens) :
    Meets Rejection.IsEncodable Tree.IsEncodable (ofTokens source tokens) := by
  unfold ofTokens
  split
  · exact meets_expecting isSource (isEncodable_of _)
  · refine (meets_chain isSource encodable).bind ?_
    rintro ⟨⟨tree, rest⟩, fewer⟩ ⟨isTree, left⟩
    cases rest with
    | nil => exact .ok isTree
    | cons token rest => exact meets_expecting (left token List.mem_cons_self) (isEncodable_of _)

end Tree

/-- The raw text of a literal that a token text writes is that text. -/
theorem Literal.raw_of_ofToken? {token : Text} {literal : Literal}
    (written : ofToken? token = some literal) : literal.raw = token := by
  unfold ofToken? at written
  split at written
  · cases written
    rfl
  · split at written
    · cases written
      rfl
    · simp at written

/-- The literal of a clause has an encoded form, and so has what it is rejected for. -/
theorem Condition.meets_ofClause {clause : Clause} (encodable : clause.IsEncodable) :
    Meets Rejection.IsEncodable (fun condition => isEncodable condition.literal.raw = true)
      (ofClause clause) := by
  unfold ofClause
  split
  · rename_i literal written
    exact .ok (Literal.raw_of_ofToken? written ▸ encodable.literal)
  · exact meets_expecting encodable.literal (isEncodable_of _)

/-- The literals of a filter, and what it is rejected for, have an encoded form. -/
theorem meets_parse {allowed : AllowList} {raw : Text} (encodable : isEncodable raw = true) :
    Meets (Rejection.IsEncodableUnder allowed)
      (fun filter => ∀ condition ∈ filter.conditions, isEncodable condition.literal.raw = true)
      (parse allowed raw) := by
  refine AllowList.meets_requireNonempty.bind fun _ _ => ?_
  split
  · exact .ok (by simp [empty])
  · have tree : Meets Rejection.IsEncodable Tree.IsEncodable (Tree.ofText raw) :=
      (meets_tokenize encodable).bind fun tokens => Tree.meets_ofTokens encodable
    refine (tree.under allowed).bind fun tree isTree => ?_
    have columns : AllEncodable (tree.clauses.map (·.column)) := by
      intro column member
      obtain ⟨clause, isClause, rfl⟩ := List.mem_map.1 member
      exact (isTree clause isClause).column
    refine (AllowList.meets_requireAll columns).bind fun _ _ => Meets.under allowed ?_
    exact (Meets.mapM fun clause isClause => Condition.meets_ofClause (isTree clause isClause)).bind
      fun conditions each => .ok each

end Filter

/-! ## Queries -/

/-- The columns that expressions on a resource may name. -/
def Resource.columns (resource : Resource) : List Text :=
  resource.fields ++ resource.filter ++ resource.sort

/-- The texts of a query have an encoded form. -/
structure Query.IsEncodable (query : Query) : Prop where
  fields : isEncodable query.fields = true
  sort : isEncodable query.sort = true
  filter : isEncodable query.filter = true
  limit : ∀ limit ∈ query.limit, isEncodable limit = true

/-- The texts of a selection have an encoded form. -/
structure Selection.IsEncodable (selection : Selection) : Prop where
  fields : AllEncodable selection.fields
  sort : ∀ key ∈ selection.sort, isEncodable key.column = true
  filter : ∀ condition ∈ selection.filter.conditions, isEncodable condition.literal.raw = true

/-- The texts of a refusal have an encoded form if the columns of the resource have. -/
def Refusal.IsEncodableUnder (resource : Resource) (refusal : Refusal) : Prop :=
  AllEncodable resource.columns → refusal.texts.all isEncodable = true

/-- The name of a parameter is encodable. -/
theorem Parameter.isEncodable_name (parameter : Parameter) :
    isEncodable parameter.name = true := by
  cases parameter <;> exact isEncodable_of _

/-- What a limit is refused for has an encoded form. -/
theorem Limit.meets_parse {bounds : LimitBounds} {raw : Option Text}
    (encodable : ∀ limit ∈ raw, isEncodable limit = true) :
    Meets (fun refusal : Refusal => refusal.texts.all isEncodable = true) (fun _ => True)
      (parse bounds raw) := by
  have refused : ∀ reason limit, raw = some limit →
      (refusal bounds reason limit).texts.all isEncodable = true := by
    intro reason limit isLimit
    have hinted : isEncodable (hint bounds) = true := by simp [hint, isEncodable_ofInt]
    simp [refusal, Refusal.texts, Parameter.isEncodable_name, encodable limit isLimit, hinted]
  unfold parse
  split
  · exact .ok trivial
  · split
    · exact .ok trivial
    · split
      · exact .error (refused _ _ rfl)
      · split
        · exact .ok trivial
        · exact .error (refused _ _ rfl)

namespace Query

variable {config : Config} {resource : Resource}

/-- An expression that is read meets what its reader meets, and what it is refused for has an
encoded form if the columns of its allow-list have. -/
theorem meets_outcome {α : Type} {value : α → Prop} {parameter : Parameter} {raw : Text}
    {allowed : AllowList} {parsed : Except Rejection α} (listed : allowed ⊆ resource.columns)
    (meets : Meets (Rejection.IsEncodableUnder allowed) value parsed) :
    Meets (Refusal.IsEncodableUnder resource) value (outcome config parameter raw parsed) := by
  have named := parameter.isEncodable_name
  unfold outcome
  split
  · refine .error fun _ => ?_
    simp [tooLong, Refusal.texts, named, isEncodable_ofInt]
  · refine meets.mapError fun rejection told columns => ?_
    have texts : AllEncodable (rejection.token.toList ++ rejection.expected.toList) :=
      told fun column member => columns column (listed member)
    simpa [Refusal.ofRejection, Refusal.texts, named] using List.all_eq_true.2 texts

/-- What an examination of an encodable query finds has an encoded form, and so has what it refuses
if the columns of the resource have. -/
theorem meets_examine {query : Query} (encodable : query.IsEncodable) :
    Meets (Refusal.IsEncodableUnder resource) Selection.IsEncodable
      (examine config resource query).result := by
  rw [result_examine]
  refine (meets_outcome ?_ (Sort.meets_parse encodable.sort)).bind fun keys sort => ?_
  · exact fun column member => List.mem_append_right _ member
  refine (meets_outcome ?_ (Filter.meets_parse encodable.filter)).bind fun found filter => ?_
  · exact fun column member => List.mem_append_left _ (List.mem_append_right _ member)
  refine (meets_outcome ?_ (Fields.meets_parse encodable.fields)).bind fun columns fields => ?_
  · exact fun column member => List.mem_append_left _ (List.mem_append_left _ member)
  have limit : Meets (Refusal.IsEncodableUnder resource) (fun _ => True)
      (Limit.parse config.limits query.limit) :=
    (Limit.meets_parse encodable.limit).imp (fun _ told _ => told) fun _ => id
  exact limit.bind fun number _ => .ok ⟨fields, sort, filter⟩

end Query

end ListQuery
