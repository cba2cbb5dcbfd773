import ListQuery.Json.Reader
import ListQuery.Proofs.Except
import ListQuery.Proofs.Json.Leaf

/-!
# The descent into JSON

The readers of the descent return proofs with what they read. Here they are taken without these
proofs, and each gets one equation that says what it does with the first character behind the
blanks. Nothing else opens a reader.
-/

namespace ListQuery.Json

open Text

/-! ## Readers without proofs -/

/-- The value at the start of a text, and the rest. -/
def readValue (room : Room) (opened : Nat) (text : Text) : Except Fault (Value × Text) :=
  (value room opened text).map Subtype.val

/-- The elements of an array, and the rest behind its bracket. -/
def readElements (room : Room) (opened : Nat) (text : Text) : Except Fault (List Value × Text) :=
  (elements room opened text).map Subtype.val

/-- The members of an object, and the rest behind its brace. -/
def readMembers (room : Room) (opened : Nat) (text : Text) :
    Except Fault (List (Text × Value) × Text) :=
  (members room opened text).map Subtype.val

/-- The members of an object whose first name has been read, and the rest behind its brace. -/
def readMember (room : Room) (opened : Nat) (name text : Text) :
    Except Fault (List (Text × Value) × Text) :=
  (member room opened name text).map Subtype.val

/-- The string whose opening quote has been read, and the rest. -/
def readString (text : Text) : Except Fault (Text × Text) :=
  match string? text with
  | some step => .ok step
  | none => .error .notJson

section

variable {c : CodePoint} {text : Text}

/-- A character that is found is the first one behind the blanks. -/
theorem skipBlanks_of_behind? {rest : { rest : Text // rest.length < text.length }}
    (found : behind? c text = some rest) : skipBlanks text = c :: rest.1 := by
  unfold behind? at found
  split at found
  · cases found
  · rename_i first after same
    split at found
    · rename_i isFirst
      cases found
      exact isFirst ▸ same
    · cases found

/-- A character that is not found is not the first one behind the blanks. -/
theorem head?_of_behind? (missing : behind? c text = none) : (skipBlanks text).head? ≠ some c := by
  unfold behind? at missing
  split at missing
  · rename_i nothing
    simp [nothing]
  · rename_i first rest same
    split at missing
    · cases missing
    · rename_i other
      simpa [same] using other

end

/-- A string is read. -/
theorem map_string (text : Text) : (string text).map Subtype.val = readString text := by
  unfold string readString
  split <;> rename_i found <;> simp [found, Except.map]

/-- A scalar is read behind its blanks. -/
theorem map_scalar (text : Text) : (scalar text).map Subtype.val =
    (afterScalar (skipBlanks text)).map fun rest => (.scalar, rest) := by
  unfold scalar
  split <;> rename_i found <;> simp [found, Except.map]

/-! ## One equation for each reader -/

/-- The elements of an array whose bracket has been read; none if it closes at once. -/
def readArray (room : Room) (opened : Nat) (text : Text) : Except Fault (List Value × Text) :=
  match skipBlanks text with
  | ']' :: rest => .ok ([], rest)
  | _ => readElements room opened text

/-- The members of an object whose brace has been read; none if it closes at once. -/
def readObject (room : Room) (opened : Nat) (text : Text) :
    Except Fault (List (Text × Value) × Text) :=
  match skipBlanks text with
  | '\x7d' :: rest => .ok ([], rest)
  | _ => readMembers room opened text

/-- The value at the start of a text that starts with no blank, once there is room for it. -/
def readBare (room : Room) (opened : Nat) (text : Text) : Except Fault (Value × Text) :=
  match text with
  | '\x22' :: rest => (readString rest).map fun (body, after) => (.text body, after)
  | '[' :: rest => (readArray room (opened + 1) rest).map fun (elements, after) =>
    (.array elements, after)
  | '\x7b' :: rest => (readObject room (opened + 1) rest).map fun (members, after) =>
    (.object members, after)
  | scalar => (afterScalar scalar).map fun rest => (.scalar, rest)

/-- What follows a value inside of a container: more behind a comma, or the end of the container. -/
def readTail {α : Type} (close : CodePoint) (more : Text → Except Fault (List α × Text)) (one : α)
    (text : Text) : Except Fault (List α × Text) :=
  match skipBlanks text with
  | c :: rest =>
    if c = ',' then (more rest).map fun (others, after) => (one :: others, after)
    else if c = close then .ok ([one], rest)
    else .error .notJson
  | [] => .error .notJson

/-- A value inside of a container, and what follows it up to the end of the container. -/
def readSequence {α : Type} (room : Room) (opened : Nat) (close : CodePoint)
    (more : Text → Except Fault (List α × Text)) (one : Value → α) (text : Text) :
    Except Fault (List α × Text) := do
  let (value, rest) ← readValue room opened text
  readTail close more (one value) rest

/-- The colon behind the name of a member. -/
def readColon (name text : Text) : Except Fault (Text × Text) :=
  match skipBlanks text with
  | ':' :: rest => .ok (name, rest)
  | _ => .error .notJson

/-- The name of a member and the colon behind it. -/
def readName (text : Text) : Except Fault (Text × Text) :=
  match skipBlanks text with
  | '\x22' :: key => do
    let (name, rest) ← readString key
    readColon name rest
  | _ => .error .notJson

section

variable {room : Room} {opened : Nat} {text rest : Text}

/-- What fails to be read as a string is none. -/
theorem readString_eq_error {fault : Fault} (failed : readString text = .error fault) :
    fault = .notJson := by
  unfold readString at failed
  split at failed <;> cases failed
  rfl

/-- What fails to be read as a name is none. -/
theorem readName_eq_error {fault : Fault} (failed : readName text = .error fault) :
    fault = .notJson := by
  unfold readName at failed
  split at failed
  · rcases bind_eq_error_iff.1 failed with failed | ⟨⟨name, left⟩, -, failed⟩
    · exact readString_eq_error failed
    · change readColon name left = _ at failed
      unfold readColon at failed
      split at failed <;> cases failed
      rfl
  · cases failed
    rfl

/-- A name ends with a colon. -/
theorem readColon_of_colon {name : Text} (colon : skipBlanks text = .scalar ':' :: rest) :
    readColon name text = .ok (name, rest) := by
  rw [readColon.eq_def, colon]
  rfl

/-- A name without a colon is no member. -/
theorem readColon_of_ne {name : Text} (other : (skipBlanks text).head? ≠ some (.scalar ':')) :
    readColon name text = .error .notJson := by
  unfold readColon
  split
  · rename_i same
    simp [same] at other
  · rfl

/-- A name starts with a quote. -/
theorem readName_of_quote (quote : skipBlanks text = .scalar '\x22' :: rest) :
    readName text = (do
      let (name, after) ← readString rest
      readColon name after) := by
  rw [readName.eq_def, quote]
  rfl

/-- What starts with no quote is no name. -/
theorem readName_of_ne (other : (skipBlanks text).head? ≠ some (.scalar '\x22')) :
    readName text = .error .notJson := by
  unfold readName
  split
  · rename_i same
    simp [same] at other
  · rfl

/-- A name is a string in front of a colon. -/
theorem readName_eq_ok_iff {step : Text × Text} : readName text = .ok step ↔
    ∃ key left, skipBlanks text = .scalar '\x22' :: key ∧
      readString key = .ok (step.1, left) ∧ skipBlanks left = .scalar ':' :: step.2 := by
  constructor
  · intro read
    unfold readName at read
    split at read
    · rename_i key quote
      obtain ⟨⟨name, left⟩, isString, isColon⟩ := bind_eq_ok_iff.1 read
      change readColon name left = _ at isColon
      unfold readColon at isColon
      split at isColon
      · rename_i after colon
        cases isColon
        exact ⟨key, left, quote, isString, colon⟩
      · cases isColon
    · cases read
  · rintro ⟨key, left, quote, isString, colon⟩
    rw [readName_of_quote quote, isString]
    exact readColon_of_colon colon

/-- An array that closes at once has no elements. -/
theorem readArray_of_close (close : skipBlanks text = .scalar ']' :: rest) :
    readArray room opened text = .ok ([], rest) := by
  rw [readArray.eq_def, close]
  rfl

/-- Elements are read of an array that does not close at once. -/
theorem readArray_of_ne (other : (skipBlanks text).head? ≠ some (.scalar ']')) :
    readArray room opened text = readElements room opened text := by
  unfold readArray
  split
  · rename_i same
    simp [same] at other
  · rfl

/-- An object that closes at once has no members. -/
theorem readObject_of_close (close : skipBlanks text = .scalar '\x7d' :: rest) :
    readObject room opened text = .ok ([], rest) := by
  rw [readObject.eq_def, close]
  rfl

/-- Members are read of an object that does not close at once. -/
theorem readObject_of_ne (other : (skipBlanks text).head? ≠ some (.scalar '\x7d')) :
    readObject room opened text = readMembers room opened text := by
  unfold readObject
  split
  · rename_i same
    simp [same] at other
  · rfl

variable {α : Type} {close : CodePoint} {more : Text → Except Fault (List α × Text)} {one : α}

/-- More is read behind a comma. -/
theorem readTail_of_comma (comma : skipBlanks text = .scalar ',' :: rest) :
    readTail close more one text =
      (more rest).map fun (others, after) => (one :: others, after) := by
  rw [readTail, comma]
  exact if_pos rfl

/-- Nothing more is read where the container closes. -/
theorem readTail_of_close (noComma : (skipBlanks text).head? ≠ some (.scalar ','))
    (closes : skipBlanks text = close :: rest) :
    readTail close more one text = .ok ([one], rest) := by
  have other : close ≠ ',' := by simpa [closes] using noComma
  rw [readTail, closes]
  exact (if_neg other).trans (if_pos rfl)

/-- Behind a value that is not the last one there has to be a comma. -/
theorem readTail_of_ne (noComma : (skipBlanks text).head? ≠ some (.scalar ','))
    (noClose : (skipBlanks text).head? ≠ some close) :
    readTail close more one text = .error .notJson := by
  unfold readTail
  split
  · rename_i same
    simp only [same, List.head?_cons, ne_eq, Option.some.injEq] at noComma noClose
    rw [if_neg noComma, if_neg noClose]
  · rfl

/-- What is read behind a value is more behind a comma, or nothing where the container closes. -/
theorem readTail_eq_ok_iff {many : List α} (isClose : close ≠ .scalar ',') :
    readTail close more one text = .ok (many, rest) ↔
      (∃ after others, skipBlanks text = .scalar ',' :: after ∧ more after = .ok (others, rest) ∧
        many = one :: others) ∨
      skipBlanks text = close :: rest ∧ many = [one] := by
  constructor
  · intro read
    unfold readTail at read
    split at read
    · rename_i c after same
      split at read
      · rename_i comma
        obtain ⟨⟨others, left⟩, isMore, rest⟩ := map_eq_ok_iff.1 read
        cases rest
        exact .inl ⟨after, others, comma ▸ same, isMore, rfl⟩
      split at read
      · rename_i closes
        cases read
        exact .inr ⟨closes ▸ same, rfl⟩
      · cases read
    · cases read
  · rintro (⟨after, others, comma, isMore, rfl⟩ | ⟨closes, rfl⟩)
    · rw [readTail_of_comma comma, isMore]
      rfl
    · refine readTail_of_close ?_ closes
      simpa [closes] using isClose

/-- A string is read behind a quote. -/
theorem readBare_quote : readBare room opened ('\x22' :: rest) =
    (readString rest).map fun (body, after) => (.text body, after) :=
  rfl

/-- An array is read behind a bracket. -/
theorem readBare_bracket : readBare room opened ('[' :: rest) =
    (readArray room (opened + 1) rest).map fun (elements, after) => (.array elements, after) :=
  rfl

/-- An object is read behind a brace. -/
theorem readBare_brace : readBare room opened ('\x7b' :: rest) =
    (readObject room (opened + 1) rest).map fun (members, after) => (.object members, after) :=
  rfl

/-- A scalar is read where no string, array or object begins. -/
theorem readBare_of_ne (noQuote : text.head? ≠ some (.scalar '\x22'))
    (noBracket : text.head? ≠ some (.scalar '[')) (noBrace : text.head? ≠ some (.scalar '\x7b')) :
    readBare room opened text = (afterScalar text).map fun rest => (.scalar, rest) := by
  unfold readBare
  split
  · exact absurd rfl noQuote
  · exact absurd rfl noBracket
  · exact absurd rfl noBrace
  · rfl

end

section

variable (room : Room) (opened : Nat) (text : Text)

/-- A value is read if there is room for it. -/
theorem readValue_eq : readValue room opened text =
    if room opened (skipBlanks text) then readBare room opened (skipBlanks text)
    else .error .nestingTooDeep := by
  rw [readValue, value]
  cases enough : room opened (skipBlanks text) with
  | false => rfl
  | true =>
    rw [if_neg (by simp), if_pos rfl]
    split
    · rename_i rest fewer quote
      rw [skipBlanks_of_behind? quote, readBare_quote, ← map_string]
      cases string rest <;> rfl
    rename_i noQuote
    split
    · rename_i rest fewer bracket
      rw [skipBlanks_of_behind? bracket, readBare_bracket]
      split
      · rename_i after fewerStill close
        rw [readArray_of_close (skipBlanks_of_behind? close)]
        rfl
      · rename_i goesOn
        rw [readArray_of_ne (head?_of_behind? goesOn), readElements]
        cases elements room (opened + 1) rest <;> rfl
    rename_i noBracket
    split
    · rename_i rest fewer brace
      rw [skipBlanks_of_behind? brace, readBare_brace]
      split
      · rename_i after fewerStill close
        rw [readObject_of_close (skipBlanks_of_behind? close)]
        rfl
      · rename_i goesOn
        rw [readObject_of_ne (head?_of_behind? goesOn), readMembers]
        cases members room (opened + 1) rest <;> rfl
    · rename_i noBrace
      rw [map_scalar, readBare_of_ne (head?_of_behind? noQuote) (head?_of_behind? noBracket)
        (head?_of_behind? noBrace)]

/-- Elements are read one after the other. -/
theorem readElements_eq : readElements room opened text =
    readSequence room opened ']' (readElements room opened) id text := by
  rw [readElements, elements, readSequence, readValue]
  rcases value room opened text with fault | ⟨⟨head, rest⟩, fewer⟩
  · rfl
  change Except.map Subtype.val _ = readTail _ _ _ _
  dsimp only [bind, Except.bind]
  split
  · rename_i after fewerStill comma
    rw [readTail_of_comma (skipBlanks_of_behind? comma), readElements]
    cases elements room opened after <;> rfl
  rename_i noComma
  split
  · rename_i after fewerStill close
    rw [readTail_of_close (head?_of_behind? noComma) (skipBlanks_of_behind? close)]
    rfl
  · rename_i noClose
    rw [readTail_of_ne (head?_of_behind? noComma) (head?_of_behind? noClose)]
    rfl

/-- Members are read one after the other. -/
theorem readMember_eq (name : Text) : readMember room opened name text =
    readSequence room opened '\x7d' (readMembers room opened) (name, ·) text := by
  rw [readMember, member, readSequence, readValue]
  rcases value room opened text with fault | ⟨⟨value, rest⟩, fewer⟩
  · rfl
  change Except.map Subtype.val _ = readTail _ _ _ _
  dsimp only [bind, Except.bind]
  split
  · rename_i after fewerStill comma
    rw [readTail_of_comma (skipBlanks_of_behind? comma), readMembers]
    cases members room opened after <;> rfl
  rename_i noComma
  split
  · rename_i after fewerStill close
    rw [readTail_of_close (head?_of_behind? noComma) (skipBlanks_of_behind? close)]
    rfl
  · rename_i noClose
    rw [readTail_of_ne (head?_of_behind? noComma) (head?_of_behind? noClose)]
    rfl

/-- Each member starts with its name. -/
theorem readMembers_eq : readMembers room opened text = (do
    let named ← readName text
    readMember room opened named.1 named.2) := by
  rw [readMembers, members]
  split
  · rename_i key fewer quote
    rw [readName_of_quote (skipBlanks_of_behind? quote), ← map_string]
    rcases string key with fault | ⟨⟨name, rest⟩, fewerStill⟩
    · rfl
    change Except.map Subtype.val _ = readColon name rest >>= _
    dsimp only [bind, Except.bind]
    split
    · rename_i after least colon
      rw [readColon_of_colon (skipBlanks_of_behind? colon)]
      dsimp only
      rw [readMember]
      cases member room opened name after <;> rfl
    · rename_i noColon
      rw [readColon_of_ne (head?_of_behind? noColon)]
      rfl
  · rename_i noQuote
    rw [readName_of_ne (head?_of_behind? noQuote)]
    rfl

/-- A whole text is one value with nothing but blanks behind it. -/
theorem ofText_eq : ofText room text = (do
    let (whole, rest) ← readValue room 0 text
    if skipBlanks rest = [] then return whole else .error .notJson) := by
  rw [ofText, readValue]
  cases value room 0 text <;> rfl

end

/-! ## What is left is shorter -/

section

variable {room : Room} {opened : Nat} {text : Text}

/-- A value takes something of a text. -/
theorem length_of_readValue {step : Value × Text} (read : readValue room opened text = .ok step) :
    step.2.length < text.length := by
  obtain ⟨⟨step, shorter⟩, -, rfl⟩ := map_eq_ok_iff.1 read
  exact shorter

/-- A string takes something of a text. -/
theorem length_of_readString {body rest : Text} (read : readString text = .ok (body, rest)) :
    rest.length < text.length := by
  unfold readString at read
  split at read
  · rename_i found
    cases read
    exact string?_length found
  · cases read

/-- A name and its colon take something of a text. -/
theorem length_of_readName {step : Text × Text} (read : readName text = .ok step) :
    step.2.length < text.length := by
  obtain ⟨key, left, quote, isString, colon⟩ := readName_eq_ok_iff.1 read
  have closes := length_of_readString isString
  have blanks := length_skipBlanks_le text
  have blanksToo := length_skipBlanks_le left
  rw [quote, List.length_cons] at blanks
  rw [colon, List.length_cons] at blanksToo
  omega

end

end ListQuery.Json
