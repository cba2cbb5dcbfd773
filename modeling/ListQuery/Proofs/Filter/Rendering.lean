import ListQuery.Proofs.Filter.Recognition
import ListQuery.Proofs.Filter.WellFormed

/-!
# Writing filters

The text of a filter places a parenthesis wherever a span starts or ends. For a filter of the
grammar this is the derivation with the fewest blanks, so the text is a sentence again, it writes
the same filter, and it is no longer than any other text that does.
-/

namespace ListQuery.Filter

open Text

/-! ## Parentheses of a condition -/

/-- The first or the last condition of a span: a condition of the span that moves along with
it. -/
structure IsEdge (edge : Span → Int) : Prop where
  covered : ∀ span : Span, span.first ≤ span.last → span.first ≤ edge span ∧ edge span ≤ span.last
  moves : ∀ (offset : Nat) (span : Span), edge (span.shift offset) = edge span + offset

/-- A span starts at an edge. -/
theorem isEdge_first : IsEdge Span.first where
  covered _ ordered := ⟨Int.le_refl _, ordered⟩
  moves _ _ := rfl

/-- A span ends at an edge. -/
theorem isEdge_last : IsEdge Span.last where
  covered _ ordered := ⟨ordered, Int.le_refl _⟩
  moves _ _ := rfl

/-- No group of a balanced filter has an edge outside of it. -/
theorem Balanced.countP_edge {depth : Nat} {filter : Filter} {edge : Span → Int} {index : Int}
    (balanced : Balanced depth filter) (isEdge : IsEdge edge)
    (outside : index < 0 ∨ (filter.conditions.length : Int) ≤ index) :
    filter.groups.countP (edge · = index) = 0 := by
  apply List.countP_eq_zero.2
  intro span member
  have inside := balanced.inside span member
  have covered := isEdge.covered span inside.2.1
  simp
  omega

/-- The edges in two joined filters are those of the first and, moved, those of the second. -/
theorem countP_edge_join {left right : Filter} {edge : Span → Int} (connective : Connective)
    (index : Int) (isEdge : IsEdge edge) :
    (left.join connective right).groups.countP (edge · = index) =
      left.groups.countP (edge · = index) +
        right.groups.countP (edge · = index - left.conditions.length) := by
  rw [join, List.countP_append, List.countP_map]
  congr 1
  apply List.countP_congr
  intro span _
  simp [isEdge.moves]
  omega

/-- A condition in front of a connective has the text that it has without what follows. -/
theorem operandText_join_left {depth index : Nat} {left right : Filter} (condition : Condition)
    (connective : Connective) (balancedRight : Balanced depth right)
    (short : index < left.conditions.length) :
    operandText (left.join connective right).groups index condition =
      operandText left.groups index condition := by
  have outside : (index : Int) - left.conditions.length < 0 := by omega
  simp only [operandText, countP_edge_join connective _ isEdge_first,
    countP_edge_join connective _ isEdge_last, Nat.add_zero,
    balancedRight.countP_edge isEdge_first (.inl outside),
    balancedRight.countP_edge isEdge_last (.inl outside)]

/-- A condition behind a connective has the text that it has without what precedes. -/
theorem operandText_join_right {depth : Nat} {left right : Filter} (index : Nat)
    (condition : Condition) (connective : Connective) (balanced : Balanced depth left) :
    operandText (left.join connective right).groups (left.conditions.length + index) condition =
      operandText right.groups index condition := by
  have outside : (left.conditions.length : Int) ≤ (left.conditions.length + index : Nat) := by omega
  have back : ((left.conditions.length + index : Nat) : Int) - left.conditions.length = index := by
    omega
  simp only [operandText, countP_edge_join connective _ isEdge_first,
    countP_edge_join connective _ isEdge_last, balanced.countP_edge isEdge_first (.inr outside),
    balanced.countP_edge isEdge_last (.inr outside), back, Nat.zero_add]

/-- A group puts a parenthesis in front of its first condition and one behind its last. -/
theorem operandText_enclose (filter : Filter) (index : Nat) (condition : Condition) :
    operandText filter.enclose.groups index condition =
      (if index = 0 then [.scalar '('] else []) ++ operandText filter.groups index condition ++
        (if index + 1 = filter.conditions.length then [.scalar ')'] else []) := by
  have starts : (0 : Int) = index ↔ index = 0 := by omega
  have ends : (filter.conditions.length : Int) - 1 = index ↔
      index + 1 = filter.conditions.length := by omega
  simp only [operandText, enclose, List.countP_append, List.countP_singleton, decide_eq_true_eq,
    starts, ends]
  have opening : ∀ count, List.replicate (count + 1) (CodePoint.scalar '(') =
      .scalar '(' :: List.replicate count (.scalar '(') := fun _ => List.replicate_succ
  have closing : ∀ count, List.replicate (count + 1) (CodePoint.scalar ')') =
      List.replicate count (.scalar ')') ++ [.scalar ')'] := fun _ => List.replicate_succ'
  split <;> split <;> simp [opening, closing]

/-! ## Texts of filters -/

/-- The text from a condition on depends on the parentheses of the conditions there only. -/
theorem continuation?_congr {groups others : List Span} {index position : Nat}
    {conditions : List Condition} {connectives : List Connective}
    (same : ∀ step condition, step < conditions.length →
      operandText groups (index + step) condition =
        operandText others (position + step) condition) :
    continuation? groups index conditions connectives =
      continuation? others position conditions connectives := by
  induction conditions generalizing index position connectives with
  | nil => simp [continuation?]
  | cons condition conditions ih =>
    cases connectives with
    | nil => simp [continuation?]
    | cons connective connectives =>
      have first := same 0 condition (by simp)
      have rest : continuation? groups (index + 1) conditions connectives =
          continuation? others (position + 1) conditions connectives := by
        apply ih
        intro step later short
        have next := same (step + 1) later (by simpa using short)
        rwa [Nat.add_comm step 1, ← Nat.add_assoc, ← Nat.add_assoc] at next
      rw [Nat.add_zero, Nat.add_zero] at first
      simp only [continuation?, first, rest]

/-- The text of some conditions and of those after them. -/
theorem continuation?_append {groups : List Span} {index : Nat} {conditions later : List Condition}
    {connectives more : List Connective} (connected : conditions.length = connectives.length) :
    continuation? groups index (conditions ++ later) (connectives ++ more) =
      (continuation? groups index conditions connectives).bind fun first =>
        (continuation? groups (index + conditions.length) later more).map (first ++ ·) := by
  induction conditions generalizing index connectives with
  | nil =>
    cases List.length_eq_zero_iff.1 connected.symm
    simp [continuation?]
  | cons condition conditions ih =>
    cases connectives with
    | nil => simp at connected
    | cons connective connectives =>
      have short : conditions.length = connectives.length := by simpa using connected
      simp only [List.cons_append, continuation?, ih short, List.length_cons,
        Nat.add_comm conditions.length 1, ← Nat.add_assoc]
      cases continuation? groups (index + 1) conditions connectives <;> simp [Function.comp_def]

/-- The text of one condition. -/
theorem text?_single (condition : Condition) : (single condition).text? = some condition.text := by
  simp [text?, single, continuation?, operandText]

/-- A text of a filter with a condition starts with that condition. -/
theorem text?_eq_some_iff {filter : Filter} {condition : Condition} {conditions : List Condition}
    {text : Text} (split : filter.conditions = condition :: conditions) :
    filter.text? = some text ↔ ∃ rest,
      continuation? filter.groups 1 conditions filter.connectives = some rest ∧
        operandText filter.groups 0 condition ++ rest = text := by
  rw [text?, split]
  exact Option.map_eq_some_iff

/-- The text of two joined filters. -/
theorem text?_join {depth : Nat} {left right : Filter} {first later : Text}
    (connective : Connective) (balanced : Balanced depth left)
    (balancedRight : Balanced depth right) (isFirst : left.text? = some first)
    (isLater : right.text? = some later) :
    (left.join connective right).text? =
      some (first ++ [.scalar ' '] ++ connective.keyword ++ [.scalar ' '] ++ later) := by
  obtain ⟨condition, conditions, split⟩ :=
    List.exists_cons_of_length_eq_add_one balanced.connected
  obtain ⟨other, others, splitRight⟩ :=
    List.exists_cons_of_length_eq_add_one balancedRight.connected
  have connected : conditions.length = left.connectives.length := by
    simpa [split] using balanced.connected
  have size : left.conditions.length = 1 + conditions.length := by simp [split, Nat.add_comm]
  obtain ⟨rest, restLeft, rfl⟩ := (text?_eq_some_iff split).1 isFirst
  obtain ⟨more, moreRight, rfl⟩ := (text?_eq_some_iff splitRight).1 isLater
  have restJoined : continuation? (left.join connective right).groups 1 conditions
      left.connectives = some rest := by
    rw [← restLeft]
    apply continuation?_congr
    intro step condition short
    exact operandText_join_left condition connective balancedRight (by omega)
  have moreJoined : continuation? (left.join connective right).groups
      (left.conditions.length + 1) others right.connectives = some more := by
    rw [← moreRight]
    apply continuation?_congr
    intro step condition _
    rw [Nat.add_assoc]
    exact operandText_join_right (1 + step) condition connective balanced
  have splitJoined : (left.join connective right).conditions =
      condition :: (conditions ++ other :: others) := by
    simp [join, split, splitRight]
  have behind : continuation? (left.join connective right).groups 1
      (conditions ++ other :: others) (left.connectives ++ connective :: right.connectives) =
      some (rest ++ (.scalar ' ' :: (connective.keyword ++
        .scalar ' ' :: (operandText right.groups 0 other ++ more)))) := by
    rw [continuation?_append connected, restJoined, ← size]
    simp only [continuation?, moreJoined, Option.map_some, Option.bind_some]
    rw [← operandText_join_right 0 other connective balanced, Nat.add_zero]
  refine (text?_eq_some_iff splitJoined).2 ⟨_, behind, ?_⟩
  rw [operandText_join_left condition connective balancedRight (by omega)]
  simp

/-- The text of some conditions at the end of a group. -/
theorem continuation?_enclose {filter : Filter} {index : Nat} {conditions : List Condition}
    {connectives : List Connective} (positive : 0 < index) (nonempty : conditions ≠ [])
    (ends : index + conditions.length = filter.conditions.length) :
    continuation? filter.enclose.groups index conditions connectives =
      (continuation? filter.groups index conditions connectives).map (· ++ [.scalar ')']) := by
  induction conditions generalizing index connectives with
  | nil => exact absurd rfl nonempty
  | cons condition conditions ih =>
    cases connectives with
    | nil => simp [continuation?]
    | cons connective connectives =>
      rw [continuation?, continuation?, operandText_enclose, if_neg (by omega)]
      cases conditions with
      | nil =>
        rw [if_pos (by simpa using ends)]
        simp [continuation?]
      | cons next conditions =>
        simp only [List.length_cons] at ends
        rw [ih (by omega) (by simp) (by simp; omega), if_neg (by omega)]
        cases continuation? filter.groups (index + 1) (next :: conditions) connectives <;> simp

/-- The text of a filter in parentheses. -/
theorem text?_enclose {depth : Nat} {filter : Filter} {text : Text}
    (balanced : Balanced depth filter) (isText : filter.text? = some text) :
    filter.enclose.text? = some ([.scalar '('] ++ text ++ [.scalar ')']) := by
  obtain ⟨condition, conditions, split⟩ :=
    List.exists_cons_of_length_eq_add_one balanced.connected
  obtain ⟨rest, isRest, rfl⟩ := (text?_eq_some_iff split).1 isText
  have splitEnclosed : filter.enclose.conditions = condition :: conditions := split
  cases conditions with
  | nil =>
    cases isRest
    refine (text?_eq_some_iff splitEnclosed).2 ⟨[], rfl, ?_⟩
    rw [operandText_enclose, if_pos rfl, if_pos (by simp [split])]
    simp
  | cons next conditions =>
    have enclosed : continuation? filter.enclose.groups 1 (next :: conditions)
        filter.connectives = some (rest ++ [.scalar ')']) := by
      rw [continuation?_enclose (by omega) (by simp) (by simp [split]; omega), isRest]
      rfl
    refine (text?_eq_some_iff splitEnclosed).2 ⟨_, enclosed, ?_⟩
    rw [operandText_enclose, if_pos rfl, if_neg (by simp [split])]
    simp

/-! ## The text of a derivation -/

/-- What a phrase writes has a text, which is such a phrase itself and no longer. -/
theorem Derives.exists_text {allowed : AllowList} {phrase : Phrase} {depth : Nat} {body : Text}
    {filter : Filter} (derives : Derives allowed phrase depth body filter) :
    ∃ text, filter.text? = some text ∧ Derives allowed phrase depth text filter ∧
      text.length ≤ body.length := by
  induction derives with
  | @condition depth condition before after admissible gapBefore gapAfter =>
    have derives : Derives allowed .operand depth _ _ :=
      .condition admissible within_nil within_nil
    refine ⟨_, text?_single condition, ?_, ?_⟩
    · simpa [Condition.text] using derives
    · simp [Condition.text]
      omega
  | group gapBefore expression gapAfter ih =>
    obtain ⟨text, isText, derives, shorter⟩ := ih
    refine ⟨_, text?_enclose expression.balanced isText, ?_, ?_⟩
    · simpa using Derives.group within_nil derives within_nil
    · simp
      omega
  | alone operand ih =>
    obtain ⟨text, isText, derives, shorter⟩ := ih
    exact ⟨text, isText, .alone derives, shorter⟩
  | @chain depth _ keyword _ before after _ _ connective operand gapBefore spacedBefore isKeyword
      gapAfter spacedAfter expression ih ihRest =>
    obtain ⟨first, isFirst, derives, shorter⟩ := ih
    obtain ⟨later, isLater, derivesLater, shorterLater⟩ := ihRest
    have blank : Within isAsciiBlank [.scalar ' '] := within_cons.2 ⟨by decide, within_nil⟩
    refine ⟨_, text?_join connective operand.balanced expression.balanced isFirst isLater,
      .chain derives blank (by simp) connective.isKeyword_keyword blank (by simp) derivesLater, ?_⟩
    have sameLength : keyword.length = connective.keyword.length := by
      rw [← isKeyword, List.length_map]
    have someBefore := List.length_pos_iff.2 spacedBefore
    have someAfter := List.length_pos_iff.2 spacedAfter
    simp [sameLength]
    omega

/-! ## Reading what was written -/

/-- The empty text is the filter without conditions. -/
theorem parse_nil {allowed : AllowList} (columns : allowed ≠ []) :
    parse allowed [] = .ok empty := by
  rw [parse, AllowList.requireNonempty_of_ne_nil columns]
  rfl

/-- The only well-formed filter without conditions is the empty one. -/
theorem WellFormed.eq_empty {allowed : AllowList} {filter : Filter}
    (wellFormed : WellFormed allowed filter) (none : filter.conditions = []) :
    filter = empty := by
  have noConnectives : filter.connectives = [] := by
    rw [← List.length_eq_zero_iff, wellFormed.connected, none]
    rfl
  have noGroups : filter.groups = [] := List.eq_nil_iff_forall_not_mem.2 fun span member => by
    have inside := wellFormed.inside span member
    simp only [none, List.length_nil] at inside
    omega
  cases filter
  simp_all [empty]

/-- The filter without conditions is well-formed. -/
theorem wellFormed_empty (allowed : AllowList) : WellFormed allowed empty where
  connected := rfl
  admissible := by simp [empty]
  inside := by simp [empty]
  laminar := by simp [empty]
  ordered := .nil
  shallow := by simp [empty]

/-- A filter that is read is well-formed. -/
theorem wellFormed_of_parse {allowed : AllowList} {raw : Text} {filter : Filter}
    (columns : allowed ≠ []) (read : parse allowed raw = .ok filter) :
    WellFormed allowed filter := by
  by_cases blank : raw = []
  · subst blank
    cases (parse_nil columns).symm.trans read
    exact wellFormed_empty allowed
  · obtain ⟨before, body, after, -, -, -, derives⟩ := sentence_of_parse columns blank read
    exact (exists_derives_iff.1 ⟨body, derives⟩).1

/-- The conditions of a filter that was read are admissible. -/
theorem admissible_of_parse {allowed : AllowList} {raw : Text} {filter : Filter}
    (read : parse allowed raw = .ok filter) :
    ∀ condition ∈ filter.conditions, condition.Admissible allowed := by
  obtain ⟨_, passed, _⟩ := bind_eq_ok_iff.1 read
  exact (wellFormed_of_parse (AllowList.requireNonempty_eq_ok_iff.1 passed) read).admissible

/-- A phrase without blanks around it is a sentence. -/
theorem Derives.sentence {allowed : AllowList} {body : Text} {filter : Filter}
    (derives : Derives allowed .expression 32 body filter) : Sentence allowed body filter :=
  ⟨[], body, [], by simp, within_nil, within_nil, derives⟩

/-- A well-formed filter has a text, from which it is read. -/
theorem parse_of_wellFormed {allowed : AllowList} {filter : Filter} (columns : allowed ≠ [])
    (wellFormed : WellFormed allowed filter) :
    ∃ text, filter.text? = some text ∧ parse allowed text = .ok filter := by
  by_cases none : filter.conditions = []
  · cases wellFormed.eq_empty none
    exact ⟨[], rfl, parse_nil columns⟩
  · obtain ⟨body, derives⟩ := exists_derives_iff.2 ⟨wellFormed, none⟩
    obtain ⟨text, isText, written, -⟩ := derives.exists_text
    exact ⟨text, isText, parse_of_sentence columns written.sentence⟩

/-- A filter that is read has a text, from which it is read again and which is no longer than the
text it was read from. -/
theorem parse_text {allowed : AllowList} {raw : Text} {filter : Filter}
    (read : parse allowed raw = .ok filter) :
    ∃ text, filter.text? = some text ∧ parse allowed text = .ok filter ∧
      text.length ≤ raw.length := by
  have columns : allowed ≠ [] := by
    obtain ⟨_, passed, -⟩ := bind_eq_ok_iff.1 read
    exact AllowList.requireNonempty_eq_ok_iff.1 passed
  by_cases blank : raw = []
  · subst blank
    cases (parse_nil columns).symm.trans read
    exact ⟨[], rfl, read, Nat.le_refl _⟩
  · obtain ⟨before, body, after, rfl, -, -, derives⟩ := sentence_of_parse columns blank read
    obtain ⟨text, isText, written, shorter⟩ := derives.exists_text
    refine ⟨text, isText, parse_of_sentence columns written.sentence, ?_⟩
    simp
    omega

/-- Reading and writing are inverse to each other on the well-formed filters, and only those are
read. -/
theorem parse_inverts_text {allowed : AllowList} (columns : allowed ≠ []) :
    (∀ raw filter, parse allowed raw = .ok filter → WellFormed allowed filter) ∧
      ∀ filter, WellFormed allowed filter →
        ∃ text, filter.text? = some text ∧ parse allowed text = .ok filter := by
  refine ⟨fun raw filter read => ?_, fun filter wellFormed => ?_⟩
  · exact wellFormed_of_parse columns read
  · exact parse_of_wellFormed columns wellFormed

/-- A group twice around a condition and once more around another is written as it was read. -/
theorem parse_inverts_text_nested :
    WellFormed ["a"] ⟨[⟨"a", .equal, .number "1"⟩, ⟨"a", .less, .number "2.5"⟩], [.and],
        [⟨0, 0⟩, ⟨0, 0⟩, ⟨0, 1⟩]⟩ ∧
      ∃ text, text? ⟨[⟨"a", .equal, .number "1"⟩, ⟨"a", .less, .number "2.5"⟩], [.and],
          [⟨0, 0⟩, ⟨0, 0⟩, ⟨0, 1⟩]⟩ = some text ∧
        parse ["a"] text = .ok ⟨[⟨"a", .equal, .number "1"⟩, ⟨"a", .less, .number "2.5"⟩], [.and],
          [⟨0, 0⟩, ⟨0, 0⟩, ⟨0, 1⟩]⟩ := by
  have columns : (["a"] : AllowList) ≠ [] := by decide
  have inverse := parse_inverts_text columns
  have wellFormed := inverse.1 "( ((a = 1)) and a<2.5)"
    ⟨[⟨"a", .equal, .number "1"⟩, ⟨"a", .less, .number "2.5"⟩], [.and], [⟨0, 0⟩, ⟨0, 0⟩, ⟨0, 1⟩]⟩
    (by decide +kernel)
  exact ⟨wellFormed, inverse.2 _ wellFormed⟩

end ListQuery.Filter
