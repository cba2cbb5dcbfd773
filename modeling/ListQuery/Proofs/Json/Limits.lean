import ListQuery.Proofs.Json.Room

/-!
# The limits of reading JSON

Reading a text can fail for exceeding a limit instead of for not being JSON: an integer has too many
digits, or there is no room for one more value. `Exceeds` says of a text that it does, in terms of
what is JSON in front of a place (`Due`), and `exceeds_iff` that this is exactly when its reader
fails for a limit. A reader stops at the first fault, so what stands behind that place plays no
part.
-/

namespace ListQuery.Json

open Text

/-- The kinds of containers. -/
inductive Container where
  | array
  | object
deriving Repr, DecidableEq

/-- A value is due at a place of a text: `rest` is the text from there on, and `within` are the
containers that are open around it, the innermost one first. The text in front of the place is JSON
as far as it goes. -/
inductive Due (text : Text) : (within : List Container) → (rest : Text) → Prop where
  | start : Due text [] text
  | blank {within : List Container} {c : CodePoint} {rest : Text}
      (due : Due text within (c :: rest)) (isBlank : isJsonBlank c = true) : Due text within rest
  | array {within : List Container} {rest : Text} (due : Due text within (.scalar '[' :: rest))
      (goesOn : (skipBlanks rest).head? ≠ some (.scalar ']')) : Due text (.array :: within) rest
  | element {within : List Container} {json rest : Text} {value : Value}
      (due : Due text (.array :: within) (json ++ .scalar ',' :: rest))
      (isJson : Denotes json value) : Due text (.array :: within) rest
  | object {within : List Container} {key name rest : Text}
      (due : Due text within (.scalar '\x7b' :: (key ++ .scalar ':' :: rest)))
      (isKey : Denotes key (.text name)) : Due text (.object :: within) rest
  | member {within : List Container} {json key name rest : Text} {value : Value}
      (due : Due text (.object :: within)
        (json ++ .scalar ',' :: (key ++ .scalar ':' :: rest)))
      (isJson : Denotes json value) (isKey : Denotes key (.text name)) :
      Due text (.object :: within) rest

/-- A text exceeds a limit: at a place where a value is due there is no room for it, or an integer
of too many digits stands there. -/
def Exceeds (room : Room) (text : Text) : Prop :=
  ∃ within rest, Due text within rest ∧ StopsAt isJsonBlank rest ∧
    (room within.length rest = false ∨ BeginsLongInteger rest)

/-- A reader failed for a limit. -/
def Exceeding {α : Type} (outcome : Except Fault α) : Prop :=
  ∃ fault, outcome = .error fault ∧ fault ≠ .notJson

section

variable {α β : Type} {outcome : Except Fault α}

/-- No limit is exceeded by what is read. -/
@[simp] theorem not_exceeding_ok (value : α) : ¬ Exceeding (.ok value : Except Fault α) := by
  rintro ⟨fault, failed, -⟩
  cases failed

/-- No limit is exceeded by what is not JSON. -/
@[simp] theorem not_exceeding_notJson : ¬ Exceeding (.error .notJson : Except Fault α) := by
  rintro ⟨fault, failed, other⟩
  cases failed
  exact other rfl

/-- Missing room is a limit exceeded. -/
@[simp] theorem exceeding_nestingTooDeep :
    Exceeding (.error .nestingTooDeep : Except Fault α) :=
  ⟨_, rfl, by simp⟩

/-- What is made of a value exceeds no limit. -/
@[simp] theorem exceeding_map_iff {f : α → β} : Exceeding (outcome.map f) ↔ Exceeding outcome :=
  exists_congr fun _ => and_congr_left fun _ => map_eq_error_iff

/-- A sequence exceeds a limit exactly if one of its steps does. -/
theorem exceeding_bind_iff {next : α → Except Fault β} : Exceeding (outcome >>= next) ↔
    Exceeding outcome ∨ ∃ a, outcome = .ok a ∧ Exceeding (next a) := by
  constructor
  · rintro ⟨fault, failed, other⟩
    rcases bind_eq_error_iff.1 failed with first | ⟨a, isFirst, second⟩
    · exact .inl ⟨fault, first, other⟩
    · exact .inr ⟨a, isFirst, fault, second, other⟩
  · rintro (⟨fault, first, other⟩ | ⟨a, isFirst, fault, second, other⟩)
    · exact ⟨fault, bind_eq_error_iff.2 (.inl first), other⟩
    · exact ⟨fault, bind_eq_error_iff.2 (.inr ⟨a, isFirst, second⟩), other⟩

end

/-! ## Where each reader exceeds a limit -/

/-- A string exceeds no limit. -/
@[simp] theorem not_exceeding_readString (text : Text) : ¬ Exceeding (readString text) := by
  rintro ⟨fault, failed, other⟩
  exact other (readString_eq_error failed)

/-- A name exceeds no limit. -/
@[simp] theorem not_exceeding_readName (text : Text) : ¬ Exceeding (readName text) := by
  rintro ⟨fault, failed, other⟩
  exact other (readName_eq_error failed)

/-- A scalar exceeds a limit exactly if it is an integer of too many digits. -/
theorem exceeding_afterScalar_iff {text : Text} :
    Exceeding (afterScalar text) ↔ BeginsLongInteger text := by
  constructor
  · rintro ⟨fault, failed, other⟩
    rcases afterScalar_eq_error failed with same | ⟨-, long⟩
    · exact absurd same other
    · exact long
  · exact fun long => ⟨_, afterScalar_of_long long, by simp⟩

section

variable {room : Room} {opened : Nat} {text : Text}

/-- The elements of an array exceed a limit exactly if it does not close at once and they do. -/
theorem exceeding_readArray_iff : Exceeding (readArray room opened text) ↔
    (skipBlanks text).head? ≠ some (.scalar ']') ∧ Exceeding (readElements room opened text) := by
  by_cases close : (skipBlanks text).head? = some (.scalar ']')
  · obtain ⟨rest, found⟩ := List.head?_eq_some_iff.1 close
    simp [readArray_of_close found, close]
  · simp [readArray_of_ne close, close]

/-- Members exceed a limit exactly if a name stands in front of one that does. -/
theorem exceeding_readMembers_iff : Exceeding (readMembers room opened text) ↔
    ∃ name rest, readName text = .ok (name, rest) ∧
      Exceeding (readMember room opened name rest) := by
  rw [readMembers_eq, exceeding_bind_iff, or_iff_right (not_exceeding_readName text)]
  exact Prod.exists

/-- The members of an object exceed a limit exactly if they do behind its brace. -/
theorem exceeding_readObject_iff :
    Exceeding (readObject room opened text) ↔ Exceeding (readMembers room opened text) := by
  by_cases close : (skipBlanks text).head? = some (.scalar '\x7d')
  · obtain ⟨rest, found⟩ := List.head?_eq_some_iff.1 close
    have noName : readName text = .error .notJson := readName_of_ne (by simp [found])
    simp [readObject_of_close found, exceeding_readMembers_iff, noName]
  · rw [readObject_of_ne close]

/-- Once there is room, a value exceeds a limit exactly if it is an integer of too many digits, or
what is inside of it does. -/
theorem exceeding_readBare_iff : Exceeding (readBare room opened text) ↔
    BeginsLongInteger text ∨
    (∃ rest, text = .scalar '[' :: rest ∧ (skipBlanks rest).head? ≠ some (.scalar ']') ∧
      Exceeding (readElements room (opened + 1) rest)) ∨
    ∃ rest, text = .scalar '\x7b' :: rest ∧ Exceeding (readMembers room (opened + 1) rest) := by
  rw [← exceeding_afterScalar_iff]
  cases opening text with
  | string rest =>
    have noScalar : afterScalar (.scalar '\x22' :: rest) = .error .notJson := rfl
    simp [readBare_quote, noScalar]
  | array rest =>
    have noScalar : afterScalar (.scalar '[' :: rest) = .error .notJson := rfl
    simp [readBare_bracket, noScalar, exceeding_readArray_iff]
  | object rest =>
    have noScalar : afterScalar (.scalar '\x7b' :: rest) = .error .notJson := rfl
    simp [readBare_brace, noScalar, exceeding_readObject_iff]
  | scalar noQuote noBracket noBrace =>
    rw [readBare_of_ne noQuote noBracket noBrace, exceeding_map_iff]
    refine ⟨.inl, ?_⟩
    rintro (long | ⟨rest, rfl, -⟩ | ⟨rest, rfl, -⟩)
    · exact long
    · exact absurd rfl noBracket
    · exact absurd rfl noBrace

/-- A value exceeds a limit exactly if there is no room for it, or it does once there is. -/
theorem exceeding_readValue_iff : Exceeding (readValue room opened text) ↔
    room opened (skipBlanks text) = false ∨ Exceeding (readBare room opened (skipBlanks text)) := by
  rw [readValue_eq]
  cases room opened (skipBlanks text) <;> simp

/-- What follows a value exceeds a limit exactly if there is a comma and more that does. -/
theorem exceeding_readTail_iff {α : Type} {close : CodePoint}
    {more : Text → Except Fault (List α × Text)} {one : α} :
    Exceeding (readTail close more one text) ↔
      ∃ rest, skipBlanks text = .scalar ',' :: rest ∧ Exceeding (more rest) := by
  unfold readTail
  split
  · rename_i c rest same
    split
    · rename_i comma
      simp [same, comma]
    · rename_i other
      split <;> simp [same, other]
  · rename_i same
    simp [same]

/-- A sequence exceeds a limit exactly if its first value does, or what stands behind that and a
comma. -/
theorem exceeding_readSequence_iff {α : Type} {close : CodePoint}
    {more : Text → Except Fault (List α × Text)} {one : Value → α} :
    Exceeding (readSequence room opened close more one text) ↔
      Exceeding (readValue room opened text) ∨
      ∃ json value rest, text = json ++ .scalar ',' :: rest ∧ Denotes json value ∧
        Exceeding (more rest) := by
  rw [readSequence, exceeding_bind_iff]
  constructor
  · rintro (exceeding | ⟨⟨value, left⟩, isValue, exceeding⟩)
    · exact .inl exceeding
    · obtain ⟨rest, comma, exceeding⟩ := exceeding_readTail_iff.1 exceeding
      obtain ⟨json, split, isJson⟩ := exists_denotes isValue comma
      exact .inr ⟨json, value, rest, split, isJson, exceeding⟩
  · rintro (exceeding | ⟨json, value, rest, rfl, isJson, exceeding⟩)
    · exact .inl exceeding
    · rcases readValue_of_denotes (c := .scalar ',') isJson rfl rfl room opened rest with
        missing | ⟨left, isValue, comma⟩
      · exact .inl (missing ▸ exceeding_nestingTooDeep)
      · exact .inr ⟨_, isValue, exceeding_readTail_iff.2 ⟨rest, comma, exceeding⟩⟩

end

/-! ## Places where a value is due -/

section

variable {room : Room} {text : Text}

/-- Where a value is due, it is due behind the blanks too. -/
theorem Due.skipBlanks {within : List Container} {rest : Text} (due : Due text within rest) :
    Due text within (skipBlanks rest) := by
  obtain ⟨blanks, inside, same, -⟩ := exists_blanks rest
  generalize Json.skipBlanks rest = bare at same ⊢
  subst same
  induction blanks with
  | nil => exact due
  | cons c blanks ih =>
    obtain ⟨blank, inside⟩ := within_cons.1 inside
    exact ih inside (due.blank blank)

/-- The readers exceed a limit at a place where a value is due. -/
def ExceedsAt (room : Room) : (within : List Container) → (rest : Text) → Prop
  | [], rest => Exceeding (readValue room 0 rest)
  | .array :: within, rest => Exceeding (readElements room (within.length + 1) rest)
  | .object :: within, rest => ∀ name, Exceeding (readMember room (within.length + 1) name rest)

/-- A value that exceeds a limit makes the reader of its container do so. -/
theorem exceedsAt_of_value {within : List Container} {rest : Text}
    (exceeding : Exceeding (readValue room within.length rest)) : ExceedsAt room within rest := by
  match within with
  | [] => exact exceeding
  | .array :: within =>
    rw [ExceedsAt, readElements_eq, exceeding_readSequence_iff]
    exact .inl exceeding
  | .object :: within =>
    intro name
    rw [readMember_eq, exceeding_readSequence_iff]
    exact .inl exceeding

/-- Blanks in front of a value change nothing. -/
theorem exceedsAt_of_blank {within : List Container} {c : CodePoint} {rest : Text}
    (exceeds : ExceedsAt room within rest) (blank : isJsonBlank c = true) :
    ExceedsAt room within (c :: rest) := by
  have skips : skipBlanks (c :: rest) = skipBlanks rest := List.dropWhile_cons_of_pos blank
  have same : ∀ opened, readValue room opened (c :: rest) = readValue room opened rest := by
    intro opened
    rw [readValue_eq, readValue_eq, skips]
  match within with
  | [] => rwa [ExceedsAt, same]
  | .array :: within =>
    rw [ExceedsAt, readElements_eq, readSequence] at exceeds ⊢
    rwa [same]
  | .object :: within =>
    intro name
    have exceeds := exceeds name
    rw [readMember_eq, readSequence] at exceeds ⊢
    rwa [same]

/-- A reader that exceeds a limit at a place where a value is due fails for it. -/
theorem Due.exceeding {within : List Container} {rest : Text} (due : Due text within rest)
    (exceeds : ExceedsAt room within rest) : Exceeding (readValue room 0 text) := by
  induction due with
  | start => exact exceeds
  | blank due isBlank ih => exact ih (exceedsAt_of_blank exceeds isBlank)
  | array due goesOn ih =>
    refine ih (exceedsAt_of_value (exceeding_readValue_iff.2 (.inr ?_)))
    exact exceeding_readBare_iff.2 (.inr (.inl ⟨_, rfl, goesOn, exceeds⟩))
  | element due isJson ih =>
    refine ih ?_
    rw [ExceedsAt, readElements_eq, exceeding_readSequence_iff]
    exact .inr ⟨_, _, _, rfl, isJson, exceeds⟩
  | object due isKey ih =>
    refine ih (exceedsAt_of_value (exceeding_readValue_iff.2 (.inr ?_)))
    refine exceeding_readBare_iff.2 (.inr (.inr ⟨_, rfl, exceeding_readMembers_iff.2 ?_⟩))
    exact ⟨_, _, readName_of_denotes isKey _, exceeds _⟩
  | member due isJson isKey ih =>
    refine ih fun name => ?_
    rw [readMember_eq, exceeding_readSequence_iff]
    refine .inr ⟨_, _, _, rfl, isJson, exceeding_readMembers_iff.2 ?_⟩
    exact ⟨_, _, readName_of_denotes isKey _, exceeds _⟩

/-- A reader that fails for a limit where a value is due comes to a place where it is exceeded. -/
theorem exceeds_of_descent (rest : Text) :
    (∀ within, Due text within rest → Exceeding (readValue room within.length rest) →
      Exceeds room text) ∧
    (∀ within, Due text (.array :: within) rest →
      Exceeding (readElements room (within.length + 1) rest) → Exceeds room text) ∧
    ∀ within, (∀ key name after, rest = key ++ .scalar ':' :: after → Denotes key (.text name) →
        Due text (.object :: within) after) →
      Exceeding (readMembers room (within.length + 1) rest) → Exceeds room text := by
  have value : ∀ within, Due text within rest → Exceeding (readValue room within.length rest) →
      Exceeds room text := by
    intro within due exceeding
    have fewer := length_skipBlanks_le rest
    have bare : StopsAt isJsonBlank (skipBlanks rest) := stopsAt_dropWhile rest
    rcases exceeding_readValue_iff.1 exceeding with full | exceeding
    · exact ⟨within, _, due.skipBlanks, bare, .inl full⟩
    rcases exceeding_readBare_iff.1 exceeding with
      long | ⟨inside, bracket, goesOn, exceeding⟩ | ⟨inside, brace, exceeding⟩
    · exact ⟨within, _, due.skipBlanks, bare, .inr long⟩
    · have shorter : inside.length < rest.length := by
        rw [bracket] at fewer
        exact fewer
      have opens := bracket ▸ due.skipBlanks
      exact (exceeds_of_descent inside).2.1 within (opens.array goesOn) exceeding
    · have shorter : inside.length < rest.length := by
        rw [brace] at fewer
        exact fewer
      have opens := brace ▸ due.skipBlanks
      refine (exceeds_of_descent inside).2.2 within (fun key name after same isKey => ?_) exceeding
      exact (same ▸ opens).object isKey
  refine ⟨value, fun within due exceeding => ?_, fun within named exceeding => ?_⟩
  · rw [readElements_eq, exceeding_readSequence_iff] at exceeding
    rcases exceeding with first | ⟨json, head, after, rfl, isJson, exceeding⟩
    · exact value _ due first
    · exact (exceeds_of_descent after).2.1 within (due.element isJson) exceeding
  · obtain ⟨name, after, isName, inMember⟩ := exceeding_readMembers_iff.1 exceeding
    obtain ⟨key, rfl, isKey⟩ := exists_denotes_of_readName isName
    have due := named key name after rfl isKey
    rw [readMember_eq, exceeding_readSequence_iff] at inMember
    rcases inMember with first | ⟨json, member, behind, rfl, isJson, others⟩
    · exact (exceeds_of_descent after).1 _ due first
    · refine (exceeds_of_descent behind).2.2 within (fun key name after same isKey => ?_) others
      exact (same ▸ due).member isJson isKey
termination_by rest.length

end

/-- A text fails to be read for a limit exactly if it exceeds one. -/
theorem exceeds_iff {room : Room} {text : Text} :
    Exceeds room text ↔ ∃ fault, ofText room text = .error fault ∧ fault ≠ .notJson := by
  have whole : Exceeding (ofText room text) ↔ Exceeding (readValue room 0 text) := by
    rw [ofText_eq, exceeding_bind_iff]
    refine or_iff_left ?_
    rintro ⟨⟨value, rest⟩, -, exceeding⟩
    dsimp only at exceeding
    split at exceeding <;> simp [pure, Except.pure] at exceeding
  show _ ↔ Exceeding (ofText room text)
  rw [whole]
  constructor
  · rintro ⟨within, rest, due, bare, exceeds⟩
    refine due.exceeding (exceedsAt_of_value (exceeding_readValue_iff.2 ?_))
    rw [skipBlanks, dropWhile_of_stopsAt bare]
    exact exceeds.imp_right fun long => exceeding_readBare_iff.2 (.inl long)
  · exact (exceeds_of_descent text).1 [] .start

/-- An integer of too many digits exceeds a limit, however much room there is. -/
theorem exceeds_of_digits (room : Room) {digits : Text} (run : DigitRun digits)
    (unpadded : digits.head? ≠ some (.scalar '0')) (long : maxDigits < digits.length) :
    Exceeds room digits := by
  have ends : StopsAt isJsonBlank digits := by
    obtain ⟨c, rest, rfl⟩ := List.exists_cons_of_ne_nil run.nonempty
    have digit := (within_cons.1 run.digits).1
    refine stopsAt_cons.2 (Bool.eq_false_iff.2 fun blank => ?_)
    simp only [isJsonBlank, Bool.or_eq_true, decide_eq_true_eq] at blank
    rcases blank with ((rfl | rfl) | rfl) | rfl <;> cases digit
  refine ⟨[], digits, .start, ends, .inr ⟨digits, ⟨[], [], by simp, .inl rfl, ?_, ?_, ?_⟩, long⟩⟩
  · exact .digits run unpadded stopsAt_nil
  · exact not_beginsFraction stopsAt_nil
  · exact not_beginsExponent stopsAt_nil

/-- Brackets one behind the other open arrays one in the other. -/
theorem Due.exists_inside {text : Text} {within : List Container} {count : Nat} {rest : Text}
    (due : Due text within (List.replicate (count + 1) (.scalar '[') ++ rest)) :
    ∃ inside, inside.length = count + within.length ∧ Due text inside (.scalar '[' :: rest) := by
  induction count generalizing within with
  | zero => exact ⟨within, by simp, due⟩
  | succ count ih =>
    rw [List.replicate_succ, List.cons_append] at due
    have goesOn : (Json.skipBlanks (List.replicate (count + 1) (.scalar '[') ++ rest)).head? ≠
        some (.scalar ']') := by
      rw [List.replicate_succ, List.cons_append, Json.skipBlanks,
        dropWhile_of_stopsAt (stopsAt_cons.2 rfl), List.head?_cons]
      decide
    obtain ⟨inside, length, due⟩ := ih (due.array goesOn)
    exact ⟨inside, by rw [length, List.length_cons]; omega, due⟩

/-- More brackets than there is room for exceed a limit. -/
theorem exceeds_of_brackets (depth : Nat) (rest : Text) :
    Exceeds (.upTo depth) (List.replicate (depth + 1) (.scalar '[') ++ rest) := by
  obtain ⟨inside, length, due⟩ := Due.exists_inside (@Due.start _)
  refine ⟨inside, _, due, stopsAt_cons.2 rfl, .inl ?_⟩
  simp [Room.upTo, length]

end ListQuery.Json
