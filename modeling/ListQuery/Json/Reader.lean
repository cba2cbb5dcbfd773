import ListQuery.Json.Leaf

/-!
# Reading JSON

A reader for JSON text that also admits `NaN`, `Infinity` and `-Infinity`. It works from left
to right and reports the first fault it meets. Each reader returns the rest of the text with a proof
that it is shorter, which is what ends the descent. How deeply containers may be nested is not a
property of JSON but of the call stack that a reader finds, so it is left to a parameter.
-/

namespace ListQuery.Json

open Text

/-- Whether there is room on the call stack for reading the value at the start of a text while some
containers are open around it. How much a value takes depends on the whole text behind its start,
since constants and reports of errors take room too. -/
abbrev Room := Nat → Text → Bool

/-- Room that never ends. -/
def Room.endless : Room := fun _ _ => true

/-- Room for a number of containers one in another, and for every value that is no container. -/
def Room.upTo (depth : Nat) : Room := fun opened text =>
  opened < depth || (text.head? ≠ some (.scalar '[') && text.head? ≠ some (.scalar '\x7b'))

/-- The room that a program of its own leaves to the reader. -/
def Room.usual : Room := .upTo 990

/-- What a reader makes of a text, and the rest of the text, which is shorter. -/
abbrev Step (α : Type) (text : Text) :=
  { step : α × Text // step.2.length < text.length }

/-- The rest behind a character, which leading blanks may precede. -/
def behind? (c : CodePoint) (text : Text) : Option { rest : Text // rest.length < text.length } :=
  match found : skipBlanks text with
  | [] => none
  | first :: rest =>
    if first = c then
      some ⟨rest, by
        have := length_skipBlanks_le text
        rw [found] at this
        exact this⟩
    else none

/-- The string whose opening quote has been read. -/
def string (text : Text) : Except Fault (Step Text text) :=
  match closed : string? text with
  | some step => .ok ⟨step, string?_length closed⟩
  | none => .error .notJson

/-- A scalar that is a word or a number, behind leading blanks. -/
def scalar (text : Text) : Except Fault (Step Value text) :=
  match found : afterScalar (skipBlanks text) with
  | .ok rest =>
    .ok ⟨(.scalar, rest),
      Nat.lt_of_lt_of_le (afterScalar_length found) (length_skipBlanks_le text)⟩
  | .error fault => .error fault

mutual

/-- The value at the start of a text, around which some containers are open. -/
def value (room : Room) (opened : Nat) (text : Text) : Except Fault (Step Value text) :=
  if ! room opened (skipBlanks text) then .error .nestingTooDeep
  else
  match behind? '\x22' text with
  | some ⟨rest, fewer⟩ => do
    let ⟨(body, after), fewerStill⟩ ← string rest
    return ⟨(.text body, after), Nat.lt_trans fewerStill fewer⟩
  | none =>
  match behind? '[' text with
  | some ⟨rest, fewer⟩ =>
    match behind? ']' rest with
    | some ⟨after, fewerStill⟩ => .ok ⟨(.array [], after), Nat.lt_trans fewerStill fewer⟩
    | none => do
      let ⟨(elements, after), fewerStill⟩ ← elements room (opened + 1) rest
      return ⟨(.array elements, after), Nat.lt_trans fewerStill fewer⟩
  | none =>
  match behind? '\x7b' text with
  | some ⟨rest, fewer⟩ =>
    match behind? '\x7d' rest with
    | some ⟨after, fewerStill⟩ => .ok ⟨(.object [], after), Nat.lt_trans fewerStill fewer⟩
    | none => do
      let ⟨(members, after), fewerStill⟩ ← members room (opened + 1) rest
      return ⟨(.object members, after), Nat.lt_trans fewerStill fewer⟩
  | none => scalar text
termination_by 2 * text.length
decreasing_by all_goals omega

/-- The elements of an array up to its closing bracket, of which there is at least one. -/
def elements (room : Room) (opened : Nat) (text : Text) :
    Except Fault (Step (List Value) text) := do
  let ⟨(head, rest), fewer⟩ ← value room opened text
  match behind? ',' rest with
  | some ⟨after, fewerStill⟩ => do
    let ⟨(tail, left), least⟩ ← elements room opened after
    return ⟨(head :: tail, left), Nat.lt_trans least (Nat.lt_trans fewerStill fewer)⟩
  | none =>
    match behind? ']' rest with
    | some ⟨after, fewerStill⟩ => .ok ⟨([head], after), Nat.lt_trans fewerStill fewer⟩
    | none => .error .notJson
termination_by 2 * text.length + 1
decreasing_by
  · omega
  · dsimp only at *; omega

/-- The members of an object up to its closing brace, of which there is at least one. -/
def members (room : Room) (opened : Nat) (text : Text) :
    Except Fault (Step (List (Text × Value)) text) :=
  match behind? '\x22' text with
  | some ⟨key, atKey⟩ => do
    let ⟨(name, rest), afterKey⟩ ← string key
    match behind? ':' rest with
    | some ⟨rest, atValue⟩ => do
      let ⟨(members, left), fewer⟩ ← member room opened name rest
      return ⟨(members, left), by dsimp only at *; omega⟩
    | none => .error .notJson
  | none => .error .notJson
termination_by 2 * text.length
decreasing_by dsimp only at *; omega

/-- The members of an object up to its closing brace, once the name of the first one and the colon
behind it have been read. -/
def member (room : Room) (opened : Nat) (name : Text) (text : Text) :
    Except Fault (Step (List (Text × Value)) text) := do
  let ⟨(value, rest), fewer⟩ ← value room opened text
  match behind? ',' rest with
  | some ⟨after, fewerStill⟩ => do
    let ⟨(tail, left), least⟩ ← members room opened after
    return ⟨((name, value) :: tail, left), Nat.lt_trans least (Nat.lt_trans fewerStill fewer)⟩
  | none =>
    match behind? '\x7d' rest with
    | some ⟨after, fewerStill⟩ => .ok ⟨([(name, value)], after), Nat.lt_trans fewerStill fewer⟩
    | none => .error .notJson
termination_by 2 * text.length + 1
decreasing_by
  · omega
  · dsimp only at *; omega

end

/-- The JSON value that a whole text writes, surrounding blanks aside. -/
def ofText (room : Room) (text : Text) : Except Fault Value := do
  let ⟨(whole, rest), _⟩ ← value room 0 text
  if skipBlanks rest = [] then return whole else .error .notJson

end ListQuery.Json
