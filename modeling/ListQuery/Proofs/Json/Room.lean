import ListQuery.Proofs.Json.Descent

/-!
# Room for reading

A reader that has less room runs out of it, or reads the same (`agrees_descent`). With endless room
it does not matter how many containers are open around a value, and what is read of a value is a
text of its own (`Denotes`): that text is read in the same way wherever it stands in front of
something that does not go on with it.
-/

namespace ListQuery.Json

open Text

/-! ## Agreement -/

/-- An outcome under limited room agrees with the one under endless room: it is the same, or room
was missing. Endless room is never missing. -/
structure Agrees {α : Type} (limited endless : Except Fault α) : Prop where
  enough : endless ≠ .error .nestingTooDeep
  same : limited = .error .nestingTooDeep ∨ limited = endless

namespace Agrees

variable {α β : Type} {limited endless : Except Fault α}

/-- An outcome that does not miss room agrees with itself. -/
theorem refl (enough : endless ≠ .error .nestingTooDeep) : Agrees endless endless :=
  ⟨enough, .inr rfl⟩

/-- Sequences agree if their steps do. -/
theorem bind {next nextToo : α → Except Fault β} (agrees : Agrees limited endless)
    (rest : ∀ a, endless = .ok a → Agrees (next a) (nextToo a)) :
    Agrees (limited >>= next) (endless >>= nextToo) := by
  obtain ⟨enough, same⟩ := agrees
  cases endless with
  | error fault =>
    refine ⟨fun missing => enough (by cases missing; rfl), ?_⟩
    rcases same with rfl | rfl
    · exact .inl rfl
    · exact .inr rfl
  | ok a =>
    obtain ⟨enough, sameRest⟩ := rest a rfl
    refine ⟨enough, ?_⟩
    rcases same with rfl | rfl
    · exact .inl rfl
    · exact sameRest

/-- Transformed outcomes agree. -/
theorem map (f : α → β) (agrees : Agrees limited endless) :
    Agrees (limited.map f) (endless.map f) := by
  obtain ⟨enough, same⟩ := agrees
  refine ⟨fun missing => enough (map_eq_error_iff.1 missing), ?_⟩
  rcases same with rfl | rfl
  · exact .inl rfl
  · exact .inr rfl

end Agrees

/-- How a text without leading blanks opens a value. -/
inductive Opening : Text → Prop where
  | string (rest : Text) : Opening (.scalar '\x22' :: rest)
  | array (rest : Text) : Opening (.scalar '[' :: rest)
  | object (rest : Text) : Opening (.scalar '\x7b' :: rest)
  | scalar {text : Text} (noQuote : text.head? ≠ some (.scalar '\x22'))
      (noBracket : text.head? ≠ some (.scalar '['))
      (noBrace : text.head? ≠ some (.scalar '\x7b')) : Opening text

/-- Every text opens a value in one of these ways. -/
theorem opening (text : Text) : Opening text := by
  by_cases quote : text.head? = some (.scalar '\x22')
  · obtain ⟨rest, rfl⟩ := List.head?_eq_some_iff.1 quote
    exact .string rest
  by_cases bracket : text.head? = some (.scalar '[')
  · obtain ⟨rest, rfl⟩ := List.head?_eq_some_iff.1 bracket
    exact .array rest
  by_cases brace : text.head? = some (.scalar '\x7b')
  · obtain ⟨rest, rfl⟩ := List.head?_eq_some_iff.1 brace
    exact .object rest
  · exact .scalar quote bracket brace

/-- A string takes no room. -/
theorem readString_ne (text : Text) : readString text ≠ .error .nestingTooDeep :=
  fun missing => by cases readString_eq_error missing

/-- A name takes no room. -/
theorem readName_ne (text : Text) : readName text ≠ .error .nestingTooDeep :=
  fun missing => by cases readName_eq_error missing

/-- A scalar takes no room. -/
theorem afterScalar_ne (text : Text) : afterScalar text ≠ .error .nestingTooDeep := by
  intro missing
  rcases afterScalar_eq_error missing with same | ⟨same, -⟩ <;> cases same

/-- What follows a value agrees if what is read behind a comma does. -/
theorem agrees_readTail {α : Type} {close : CodePoint} {one : α} {text : Text}
    {more moreToo : Text → Except Fault (List α × Text)}
    (agrees : ∀ rest : Text, rest.length < text.length → Agrees (more rest) (moreToo rest)) :
    Agrees (readTail close more one text) (readTail close moreToo one text) := by
  have shorter := length_skipBlanks_le text
  unfold readTail
  split
  · rename_i c rest same
    rw [same, List.length_cons] at shorter
    split
    · exact (agrees rest shorter).map _
    · split <;> exact .refl (by simp)
  · exact .refl (by simp)

section

variable {room : Room} {opened other : Nat} {text : Text}

/-- The elements of an array agree if those do that are read. -/
theorem agrees_readArray
    (agrees : Agrees (readElements room opened text) (readElements .endless other text)) :
    Agrees (readArray room opened text) (readArray .endless other text) := by
  unfold readArray
  split
  · exact .refl (by simp)
  · exact agrees

/-- The members of an object agree if those do that are read. -/
theorem agrees_readObject
    (agrees : Agrees (readMembers room opened text) (readMembers .endless other text)) :
    Agrees (readObject room opened text) (readObject .endless other text) := by
  unfold readObject
  split
  · exact .refl (by simp)
  · exact agrees

/-- Values agree if what is inside of them does. -/
theorem agrees_readBare
    (inner : ∀ rest : Text, rest.length < text.length → ∀ opened other,
      Agrees (readElements room opened rest) (readElements .endless other rest) ∧
      Agrees (readMembers room opened rest) (readMembers .endless other rest)) :
    Agrees (readBare room opened text) (readBare .endless other text) := by
  cases opening text with
  | string rest =>
    rw [readBare_quote, readBare_quote]
    exact (Agrees.refl (readString_ne rest)).map _
  | array rest =>
    rw [readBare_bracket, readBare_bracket]
    exact (agrees_readArray (inner rest (Nat.lt_succ_self _) _ _).1).map _
  | object rest =>
    rw [readBare_brace, readBare_brace]
    exact (agrees_readObject (inner rest (Nat.lt_succ_self _) _ _).2).map _
  | scalar noQuote noBracket noBrace =>
    rw [readBare_of_ne noQuote noBracket noBrace, readBare_of_ne noQuote noBracket noBrace]
    exact (Agrees.refl (afterScalar_ne text)).map _

/-- With room, a value is what its first character opens. -/
theorem readValue_endless (opened : Nat) (text : Text) :
    readValue .endless opened text = readBare .endless opened (skipBlanks text) := by
  rw [readValue_eq]
  rfl

/-- A value agrees if what it opens does. -/
theorem agrees_readValue
    (bare : Agrees (readBare room opened (skipBlanks text))
      (readBare .endless other (skipBlanks text))) :
    Agrees (readValue room opened text) (readValue .endless other text) := by
  rw [readValue_endless, readValue_eq]
  split
  · exact bare
  · exact ⟨bare.enough, .inl rfl⟩

end

/-- Sequences agree if their values do, and what is read behind these. -/
theorem agrees_readSequence {α : Type} {close : CodePoint} {one : Value → α}
    {more moreToo : Text → Except Fault (List α × Text)}
    (value : Agrees (readValue room opened text) (readValue .endless other text))
    (agrees : ∀ inside : Text, inside.length < text.length →
      Agrees (more inside) (moreToo inside)) :
    Agrees (readSequence room opened close more one text)
      (readSequence .endless other close moreToo one text) :=
  value.bind fun _ read => agrees_readTail fun inside shorter =>
    agrees inside (Nat.lt_trans shorter (length_of_readValue read))

/-- Under any room the descent reads what it reads under endless room, or room was missing. -/
theorem agrees_descent (room : Room) (opened other : Nat) (text : Text) :
    Agrees (readValue room opened text) (readValue .endless other text) ∧
    Agrees (readElements room opened text) (readElements .endless other text) ∧
    Agrees (readMembers room opened text) (readMembers .endless other text) := by
  have value : Agrees (readValue room opened text) (readValue .endless other text) := by
    refine agrees_readValue (agrees_readBare fun rest shorter opened other => ?_)
    have fewer := length_skipBlanks_le text
    exact (agrees_descent room opened other rest).2
  refine ⟨value, ?_, ?_⟩
  · rw [readElements_eq, readElements_eq]
    exact agrees_readSequence value fun inside shorter =>
      (agrees_descent room opened other inside).2.1
  · rw [readMembers_eq, readMembers_eq]
    refine (Agrees.refl (readName_ne text)).bind fun named read => ?_
    have fewer := length_of_readName read
    rw [readMember_eq, readMember_eq]
    exact agrees_readSequence (agrees_descent room opened other named.2).1 fun inside shorter =>
      (agrees_descent room opened other inside).2.2
termination_by text.length

/-! ## What a value takes -/

section

variable {c : CodePoint} {text rest blanks : Text}

/-- Blanks in front of something else are skipped. -/
theorem skipBlanks_append (inside : Within isJsonBlank blanks)
    (ends : StopsAt isJsonBlank rest) : skipBlanks (blanks ++ rest) = rest :=
  dropWhile_run inside ends

/-- What stands behind the blanks of a text stands behind them in the text. -/
theorem exists_blanks (text : Text) : ∃ blanks, Within isJsonBlank blanks ∧
    text = blanks ++ skipBlanks text ∧ StopsAt isJsonBlank (skipBlanks text) :=
  ⟨text.takeWhile isJsonBlank, within_takeWhile text, List.takeWhile_append_dropWhile.symm,
    stopsAt_dropWhile text⟩

/-- The first character behind blanks is that with something else behind it too. -/
theorem exists_behind (found : skipBlanks text = c :: rest) : ∃ blanks,
    Within isJsonBlank blanks ∧ text = blanks ++ c :: rest ∧
      ∀ other, skipBlanks (blanks ++ c :: other) = c :: other := by
  obtain ⟨blanks, inside, same, ends⟩ := exists_blanks text
  rw [found] at same ends
  exact ⟨blanks, inside, same, fun other =>
    skipBlanks_append inside (stopsAt_cons.2 (stopsAt_cons.1 ends))⟩

/-- Blanks do not go on with a number, nor does what stands behind them if it does not. -/
theorem stopsAt_blanks (inside : Within isJsonBlank blanks) (ends : StopsAt continuesNumber rest) :
    StopsAt continuesNumber (blanks ++ rest) := by
  cases blanks with
  | nil => exact ends
  | cons c blanks =>
    have blank := (within_cons.1 inside).1
    simp only [isJsonBlank, Bool.or_eq_true, decide_eq_true_eq] at blank
    rcases blank with ((rfl | rfl) | rfl) | rfl <;> exact stopsAt_cons.2 rfl

end

/-- A reader takes the front of a text and says the same of it whatever stands behind it. -/
abbrev TakesValue {α : Type} (goesOn : CodePoint → Bool) (read : Text → Except Fault (α × Text))
    (value : α) : Text → Text → Prop :=
  Takes goesOn read fun rest => .ok (value, rest)

/-- A string ends by itself. -/
theorem takes_readString {text body rest : Text} (read : readString text = .ok (body, rest)) :
    TakesValue never readString body text rest := by
  unfold readString at read
  split at read
  · rename_i found
    cases read
    obtain ⟨front, rfl, reads⟩ := takes_string? found
    exact ⟨front, rfl, fun other ends => by simp [readString, reads other ends]⟩
  · cases read

/-- A name ends with its colon. -/
theorem takes_readName {text name rest : Text} (read : readName text = .ok (name, rest)) :
    TakesValue never readName name text rest := by
  obtain ⟨key, left, quote, isString, colon⟩ := readName_eq_ok_iff.1 read
  obtain ⟨blanks, -, rfl, quoted⟩ := exists_behind quote
  obtain ⟨front, rfl, reads⟩ := takes_readString isString
  obtain ⟨between, -, rfl, closed⟩ := exists_behind colon
  refine ⟨blanks ++ .scalar '\x22' :: (front ++ (between ++ [.scalar ':'])), by simp,
    fun other _ => ?_⟩
  have same : blanks ++ CodePoint.scalar '\x22' :: (front ++ (between ++ [.scalar ':'])) ++ other =
      blanks ++ .scalar '\x22' :: (front ++ (between ++ .scalar ':' :: other)) := by simp
  rw [same]
  exact readName_eq_ok_iff.2 ⟨_, _, quoted _, reads _ (stopsAt_never _), closed other⟩

section

variable {opened : Nat} {text rest : Text}

/-- No element starts with the bracket that closes an array. -/
theorem head?_of_readElements {step : List Value × Text}
    (read : readElements .endless opened text = .ok step) :
    (skipBlanks text).head? ≠ some (.scalar ']') := by
  intro first
  obtain ⟨after, same⟩ := List.head?_eq_some_iff.1 first
  rw [readElements_eq, readSequence, readValue_endless, same] at read
  cases read

/-- No member starts with the brace that closes an object. -/
theorem head?_of_readMembers {step : List (Text × Value) × Text}
    (read : readMembers .endless opened text = .ok step) :
    (skipBlanks text).head? ≠ some (.scalar '\x7d') := by
  intro first
  rw [readMembers_eq, readName_of_ne (by simp [first])] at read
  cases read

/-- The elements of an array end with its bracket if those do that are read. -/
theorem takes_readArray {elements : List Value}
    (inner : readElements .endless opened text = .ok (elements, rest) →
      TakesValue never (readElements .endless opened) elements text rest)
    (read : readArray .endless opened text = .ok (elements, rest)) :
    TakesValue never (readArray .endless opened) elements text rest := by
  by_cases close : (skipBlanks text).head? = some (.scalar ']')
  · obtain ⟨after, close⟩ := List.head?_eq_some_iff.1 close
    cases (readArray_of_close close).symm.trans read
    obtain ⟨blanks, -, rfl, closes⟩ := exists_behind close
    exact ⟨blanks ++ [.scalar ']'], by simp, fun other _ =>
      readArray_of_close (by simpa using closes other)⟩
  · obtain ⟨front, same, reads⟩ := inner ((readArray_of_ne close).symm.trans read)
    refine ⟨front, same, fun other ends => ?_⟩
    rw [readArray_of_ne (head?_of_readElements (reads other ends)), reads other ends]

/-- The members of an object end with its brace if those do that are read. -/
theorem takes_readObject {members : List (Text × Value)}
    (inner : readMembers .endless opened text = .ok (members, rest) →
      TakesValue never (readMembers .endless opened) members text rest)
    (read : readObject .endless opened text = .ok (members, rest)) :
    TakesValue never (readObject .endless opened) members text rest := by
  by_cases close : (skipBlanks text).head? = some (.scalar '\x7d')
  · obtain ⟨after, close⟩ := List.head?_eq_some_iff.1 close
    cases (readObject_of_close close).symm.trans read
    obtain ⟨blanks, -, rfl, closes⟩ := exists_behind close
    exact ⟨blanks ++ [.scalar '\x7d'], by simp, fun other _ =>
      readObject_of_close (by simpa using closes other)⟩
  · obtain ⟨front, same, reads⟩ := inner ((readObject_of_ne close).symm.trans read)
    refine ⟨front, same, fun other ends => ?_⟩
    rw [readObject_of_ne (head?_of_readMembers (reads other ends)), reads other ends]

/-- A scalar starts with no blank, and opens no string, array or object. -/
theorem head?_of_afterScalar (read : afterScalar text = .ok rest) :
    ∀ c ∈ text.head?, isJsonBlank c = false ∧ c ≠ '\x22' ∧ c ≠ '[' ∧ c ≠ '\x7b' := by
  intro c first
  obtain ⟨after, rfl⟩ := List.head?_eq_some_iff.1 first
  refine ⟨Bool.eq_false_iff.2 fun blank => ?_, ?_⟩
  · simp only [isJsonBlank, Bool.or_eq_true, decide_eq_true_eq] at blank
    rcases blank with ((rfl | rfl) | rfl) | rfl <;> cases read
  · refine ⟨?_, ?_, ?_⟩ <;> rintro rfl <;> cases read

/-- What is read as a scalar is read as a value. -/
theorem readBare_of_afterScalar (read : afterScalar text = .ok rest) :
    readBare .endless opened text = .ok (.scalar, rest) := by
  have first := head?_of_afterScalar read
  rw [readBare_of_ne (fun quote => (first _ quote).2.1 rfl)
    (fun bracket => (first _ bracket).2.2.1 rfl) (fun brace => (first _ brace).2.2.2 rfl), read]
  rfl

/-- A value starts with no blank. -/
theorem stopsAt_of_readBare {step : Value × Text}
    (read : readBare .endless opened text = .ok step) :
    StopsAt isJsonBlank text := by
  cases opening text with
  | string | array | object => exact stopsAt_cons.2 rfl
  | scalar noQuote noBracket noBrace =>
    rw [readBare_of_ne noQuote noBracket noBrace] at read
    obtain ⟨rest, read, -⟩ := map_eq_ok_iff.1 read
    exact fun c first => (head?_of_afterScalar read c first).1

/-- What is inside of containers ends by itself. -/
def EndsInside (text : Text) : Prop :=
  ∀ opened,
    (∀ elements rest, readElements .endless opened text = .ok (elements, rest) →
      TakesValue never (readElements .endless opened) elements text rest) ∧
    ∀ members rest, readMembers .endless opened text = .ok (members, rest) →
      TakesValue never (readMembers .endless opened) members text rest

/-- A value ends where nothing goes on with it, if what is inside of it ends by itself. -/
theorem takes_readBare {value : Value}
    (inner : ∀ inside : Text, inside.length < text.length → EndsInside inside)
    (read : readBare .endless opened text = .ok (value, rest)) :
    TakesValue continuesNumber (readBare .endless opened) value text rest := by
  cases opening text with
  | string body =>
    rw [readBare_quote] at read
    obtain ⟨⟨written, left⟩, isString, same⟩ := map_eq_ok_iff.1 read
    cases same
    obtain ⟨front, rfl, reads⟩ := takes_readString isString
    refine ⟨.scalar '\x22' :: front, rfl, fun other _ => ?_⟩
    rw [List.cons_append, readBare_quote, reads other (stopsAt_never other)]
    rfl
  | array body =>
    rw [readBare_bracket] at read
    obtain ⟨⟨elements, left⟩, isArray, same⟩ := map_eq_ok_iff.1 read
    cases same
    obtain ⟨front, rfl, reads⟩ :=
      takes_readArray ((inner body (Nat.lt_succ_self _) _).1 elements rest) isArray
    refine ⟨.scalar '[' :: front, rfl, fun other _ => ?_⟩
    rw [List.cons_append, readBare_bracket, reads other (stopsAt_never other)]
    rfl
  | object body =>
    rw [readBare_brace] at read
    obtain ⟨⟨members, left⟩, isObject, same⟩ := map_eq_ok_iff.1 read
    cases same
    obtain ⟨front, rfl, reads⟩ :=
      takes_readObject ((inner body (Nat.lt_succ_self _) _).2 members rest) isObject
    refine ⟨.scalar '\x7b' :: front, rfl, fun other _ => ?_⟩
    rw [List.cons_append, readBare_brace, reads other (stopsAt_never other)]
    rfl
  | scalar noQuote noBracket noBrace =>
    rw [readBare_of_ne noQuote noBracket noBrace] at read
    obtain ⟨left, isScalar, same⟩ := map_eq_ok_iff.1 read
    cases same
    obtain ⟨front, same, reads⟩ := takes_afterScalar isScalar
    exact ⟨front, same, fun other ends => readBare_of_afterScalar (reads other ends)⟩

/-- Blanks in front of a value are no part of it. -/
theorem takes_readValue_of_bare {value : Value}
    (bare : ∀ rest, readBare .endless opened (skipBlanks text) = .ok (value, rest) →
      TakesValue continuesNumber (readBare .endless opened) value (skipBlanks text) rest)
    (read : readValue .endless opened text = .ok (value, rest)) :
    TakesValue continuesNumber (readValue .endless opened) value text rest := by
  rw [readValue_endless] at read
  obtain ⟨front, same, reads⟩ := bare rest read
  obtain ⟨blanks, inside, split, -⟩ := exists_blanks text
  refine ⟨blanks ++ front, by rw [List.append_assoc, ← same]; exact split, fun other ends => ?_⟩
  have starts := stopsAt_of_readBare (reads other ends)
  rw [readValue_endless, List.append_assoc, skipBlanks_append inside starts, reads other ends]

/-- A value and what follows it up to the end of its container end by themselves. -/
theorem takes_readSequence {α : Type} {close : CodePoint}
    {more : Text → Except Fault (List α × Text)} {one : Value → α} {many : List α}
    (isClose : close = ']' ∨ close = '\x7d')
    (value : ∀ value rest, readValue .endless opened text = .ok (value, rest) →
      TakesValue continuesNumber (readValue .endless opened) value text rest)
    (inner : ∀ inside : Text, inside.length < text.length →
      ∀ others rest, more inside = .ok (others, rest) → TakesValue never more others inside rest)
    (read : readSequence .endless opened close more one text = .ok (many, rest)) :
    TakesValue never (readSequence .endless opened close more one) many text rest := by
  have noComma : close ≠ .scalar ',' := by rcases isClose with rfl | rfl <;> decide
  have ends : ∀ other, StopsAt continuesNumber (close :: other) := by
    rcases isClose with rfl | rfl <;> exact fun other => stopsAt_cons.2 rfl
  obtain ⟨⟨head, left⟩, isValue, isTail⟩ := bind_eq_ok_iff.1 read
  have shorter := length_of_readValue isValue
  obtain ⟨front, same, reads⟩ := value head left isValue
  rcases (readTail_eq_ok_iff noComma).1 isTail with
    ⟨after, others, comma, isMore, rfl⟩ | ⟨closes, rfl⟩
  · obtain ⟨blanks, inside, rfl, commas⟩ := exists_behind comma
    have fewer : after.length < text.length := by
      simp only [List.length_append, List.length_cons] at shorter
      omega
    obtain ⟨last, rfl, readsMore⟩ := inner after fewer others rest isMore
    refine ⟨front ++ (blanks ++ .scalar ',' :: last), by simp [same], fun other _ => ?_⟩
    have split : front ++ (blanks ++ CodePoint.scalar ',' :: last) ++ other =
        front ++ (blanks ++ .scalar ',' :: (last ++ other)) := by simp
    rw [split]
    refine bind_eq_ok_iff.2 ⟨_, reads _ (stopsAt_blanks inside (stopsAt_cons.2 rfl)), ?_⟩
    exact (readTail_eq_ok_iff noComma).2
      (.inl ⟨_, others, commas _, readsMore other (stopsAt_never other), rfl⟩)
  · obtain ⟨blanks, inside, rfl, closed⟩ := exists_behind closes
    refine ⟨front ++ (blanks ++ [close]), by simp [same], fun other _ => ?_⟩
    have split : front ++ (blanks ++ [close]) ++ other = front ++ (blanks ++ close :: other) := by
      simp
    rw [split]
    refine bind_eq_ok_iff.2 ⟨_, reads _ (stopsAt_blanks inside (ends other)), ?_⟩
    exact (readTail_eq_ok_iff noComma).2 (.inr ⟨closed other, rfl⟩)

end

/-- Every reader of the descent takes a front that is read by itself. -/
theorem takes_descent (text : Text) :
    (∀ opened value rest, readValue .endless opened text = .ok (value, rest) →
      TakesValue continuesNumber (readValue .endless opened) value text rest) ∧
    EndsInside text := by
  have value : ∀ opened value rest, readValue .endless opened text = .ok (value, rest) →
      TakesValue continuesNumber (readValue .endless opened) value text rest := by
    intro opened value rest
    refine takes_readValue_of_bare fun left => takes_readBare fun inside shorter => ?_
    have fewer := length_skipBlanks_le text
    exact (takes_descent inside).2
  refine ⟨value, fun opened => ⟨fun elements rest read => ?_, fun members rest read => ?_⟩⟩
  · rw [readElements_eq] at read
    obtain ⟨front, same, reads⟩ := takes_readSequence (.inl rfl) (value opened)
      (fun inside shorter others left => ((takes_descent inside).2 opened).1 others left) read
    exact ⟨front, same, fun other ends => by rw [readElements_eq, reads other ends]⟩
  · rw [readMembers_eq] at read
    obtain ⟨⟨name, left⟩, isName, isMember⟩ := bind_eq_ok_iff.1 read
    have fewer : left.length < text.length := length_of_readName isName
    obtain ⟨front, rfl, reads⟩ := takes_readName isName
    rw [readMember_eq] at isMember
    obtain ⟨last, rfl, readsMembers⟩ := takes_readSequence (.inr rfl)
      ((takes_descent left).1 opened)
      (fun inside shorter others left => ((takes_descent inside).2 opened).2 others left) isMember
    refine ⟨front ++ last, by rw [List.append_assoc], fun other ends => ?_⟩
    rw [List.append_assoc, readMembers_eq]
    refine bind_eq_ok_iff.2 ⟨_, reads _ (stopsAt_never _), ?_⟩
    rw [readMember_eq, readsMembers other ends]
termination_by text.length

/-! ## What a text denotes -/

/-- A text denotes a value: it is what JSON writes for it, surrounding blanks aside. How much room a
reader has is no part of that. -/
def Denotes (text : Text) (value : Value) : Prop :=
  ofText .endless text = .ok value

section

variable {room : Room} {opened : Nat} {c : CodePoint} {json text rest left : Text} {value : Value}

/-- A text is read under limited room as it is under endless room, unless room is missing. -/
theorem agrees_ofText (room : Room) (text : Text) :
    Agrees (ofText room text) (ofText .endless text) := by
  rw [ofText_eq, ofText_eq]
  refine (agrees_descent room 0 0 text).1.bind fun step _ => .refl ?_
  dsimp only
  split <;> simp [pure, Except.pure]

/-- What is read of a text under any room is what the text denotes. -/
theorem denotes_of_ofText (read : ofText room text = .ok value) : Denotes text value := by
  rcases (agrees_ofText room text).same with missing | same
  · cases missing.symm.trans read
  · exact same.symm.trans read

/-- A text that is not JSON denotes nothing. -/
theorem not_denotes_of_notJson (unread : ofText room text = .error .notJson) (value : Value) :
    ¬ Denotes text value := by
  intro denotes
  rcases (agrees_ofText room text).same with missing | same
  · cases missing.symm.trans unread
  · cases (same.symm.trans unread).symm.trans denotes

/-- A text denotes what is read of it if nothing but blanks is left. -/
theorem denotes_iff : Denotes json value ↔
    ∃ rest, readValue .endless 0 json = .ok (value, rest) ∧ skipBlanks rest = [] := by
  rw [Denotes, ofText_eq]
  constructor
  · intro read
    obtain ⟨⟨whole, rest⟩, isValue, isWhole⟩ := bind_eq_ok_iff.1 read
    dsimp only at isWhole
    split at isWhole
    · rename_i blank
      cases isWhole
      exact ⟨rest, isValue, blank⟩
    · cases isWhole
  · rintro ⟨rest, isValue, blank⟩
    exact bind_eq_ok_iff.2 ⟨_, isValue, if_pos blank⟩

/-- What is read in front of a character that is no blank is a text that denotes it. -/
theorem exists_denotes (read : readValue room opened text = .ok (value, left))
    (behind : skipBlanks left = c :: rest) :
    ∃ json, text = json ++ c :: rest ∧ Denotes json value := by
  obtain ⟨enough, missing | same⟩ := (agrees_descent room opened 0 text).1
  · cases missing.symm.trans read
  rw [same] at read
  obtain ⟨front, rfl, reads⟩ := (takes_descent text).1 0 value left read
  obtain ⟨blanks, inside, rfl, -⟩ := exists_behind behind
  have blank : StopsAt continuesNumber blanks := by
    simpa using stopsAt_blanks inside stopsAt_nil
  refine ⟨front ++ blanks, by simp, denotes_iff.2 ⟨blanks, reads blanks blank, ?_⟩⟩
  simpa using skipBlanks_append inside stopsAt_nil

/-- A text that denotes a value is read in front of a character that neither goes on with it nor is
a blank, unless room is missing. -/
theorem readValue_of_denotes (denotes : Denotes json value) (ends : continuesNumber c = false)
    (bare : isJsonBlank c = false) (room : Room) (opened : Nat) (rest : Text) :
    readValue room opened (json ++ c :: rest) = .error .nestingTooDeep ∨
      ∃ left, readValue room opened (json ++ c :: rest) = .ok (value, left) ∧
        skipBlanks left = c :: rest := by
  obtain ⟨blanks, isValue, nothing⟩ := denotes_iff.1 denotes
  obtain ⟨front, rfl, reads⟩ := (takes_descent json).1 0 value blanks isValue
  obtain ⟨inside, within, same, -⟩ := exists_blanks blanks
  rw [nothing, List.append_nil] at same
  subst same
  have stops : StopsAt continuesNumber (blanks ++ c :: rest) :=
    stopsAt_blanks within (stopsAt_cons.2 ends)
  rw [List.append_assoc]
  obtain ⟨enough, missing | same⟩ :=
    (agrees_descent room opened 0 (front ++ (blanks ++ c :: rest))).1
  · exact .inl missing
  · exact .inr ⟨_, same.trans (reads _ stops), skipBlanks_append within (stopsAt_cons.2 bare)⟩

/-- Only a string is read as a text. -/
theorem exists_quote {name : Text}
    (read : readValue .endless opened text = .ok (.text name, rest)) :
    ∃ key, skipBlanks text = .scalar '\x22' :: key ∧ readString key = .ok (name, rest) := by
  rw [readValue_endless] at read
  generalize skipBlanks text = bare at read
  cases opening bare with
  | string key =>
    rw [readBare_quote] at read
    obtain ⟨⟨body, left⟩, isString, same⟩ := map_eq_ok_iff.1 read
    cases same
    exact ⟨key, rfl, isString⟩
  | array =>
    rw [readBare_bracket] at read
    obtain ⟨_, -, same⟩ := map_eq_ok_iff.1 read
    cases same
  | object =>
    rw [readBare_brace] at read
    obtain ⟨_, -, same⟩ := map_eq_ok_iff.1 read
    cases same
  | scalar noQuote noBracket noBrace =>
    rw [readBare_of_ne noQuote noBracket noBrace] at read
    obtain ⟨_, -, same⟩ := map_eq_ok_iff.1 read
    cases same

/-- A text that denotes a text is read as a name in front of a colon. -/
theorem readName_of_denotes {key name : Text} (isKey : Denotes key (.text name)) (rest : Text) :
    readName (key ++ .scalar ':' :: rest) = .ok (name, rest) := by
  obtain ⟨blanks, isValue, nothing⟩ := denotes_iff.1 isKey
  obtain ⟨body, quote, isString⟩ := exists_quote isValue
  obtain ⟨lead, -, rfl, quoted⟩ := exists_behind quote
  obtain ⟨front, rfl, reads⟩ := takes_readString isString
  obtain ⟨inside, within, same, -⟩ := exists_blanks blanks
  rw [nothing, List.append_nil] at same
  subst same
  have split : lead ++ CodePoint.scalar '\x22' :: (front ++ blanks) ++ .scalar ':' :: rest =
      lead ++ .scalar '\x22' :: (front ++ (blanks ++ .scalar ':' :: rest)) := by simp
  rw [split]
  exact readName_eq_ok_iff.2 ⟨_, _, quoted _, reads _ (stopsAt_never _),
    skipBlanks_append within (stopsAt_cons.2 rfl)⟩

/-- What is read as a name in front of a colon is a text that denotes a text. -/
theorem exists_denotes_of_readName {name : Text} (read : readName text = .ok (name, rest)) :
    ∃ key, text = key ++ .scalar ':' :: rest ∧ Denotes key (.text name) := by
  obtain ⟨body, left, quote, isString, colon⟩ := readName_eq_ok_iff.1 read
  have isValue : readValue .endless 0 text = .ok (.text name, left) := by
    rw [readValue_endless, quote, readBare_quote, isString]
    rfl
  exact exists_denotes isValue colon

end

end ListQuery.Json
