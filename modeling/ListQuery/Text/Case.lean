import ListQuery.Text.CaseTable
import ListQuery.Text.Basic

/-!
# Letter case

The full Unicode case mappings, under which one character may become several. Upper case
looks at each character alone. Lower case does too, except that a capital sigma at the end
of a word becomes the final sigma.
-/

namespace ListQuery.Text

/-- The mapped code point if `n` lies in the run. -/
def CaseRun.image? (run : CaseRun) (n : Nat) : Option Nat :=
  if run.first ≤ n && n ≤ run.last && (n - run.first) % run.step == 0 then
    some (n + run.offset).toNat
  else none

/-- The image of a character under case data: its expansion, else its run, else itself. -/
def mapCase (expansions : List (Nat × List Nat)) (runs : List CaseRun) (c : CodePoint) : Text :=
  match expansions.lookup c.toNat with
  | some expansion => expansion.map .ofNat
  | none => [((runs.findSome? (·.image? c.toNat)).map .ofNat).getD c]

/-- The upper case of one character. -/
def upperChar (c : CodePoint) : Text :=
  if c.toNat < 128 then [c.toAsciiUpper] else mapCase upperExpansions upperRuns c

/-- The lower case of one character out of context. -/
def lowerChar (c : CodePoint) : Text :=
  if c.toNat < 128 then [c.toAsciiLower] else mapCase lowerExpansions lowerRuns c

/-- The upper case of a text. -/
def upper (text : Text) : Text :=
  text.flatMap upperChar

/-- Whether a code point lies in one of some inclusive ranges. -/
def inRanges (ranges : List (Nat × Nat)) (n : Nat) : Bool :=
  ranges.any fun range => range.1 ≤ n && n ≤ range.2

/-- Whether the nearest character that is not ignorable is a cased one. -/
def meetsCased (neighbours : Text) : Bool :=
  match neighbours.find? (! inRanges caseIgnorableRanges ·.toNat) with
  | some c => inRanges casedRanges c.toNat
  | none => false

/-- The lower case of a capital sigma between the characters before it, nearest first, and
those after it: final at the end of a word, medial elsewhere. -/
def lowerSigma (before after : Text) : CodePoint :=
  if meetsCased before && ! meetsCased after then 'ς' else 'σ'

/-- The lower case of a text whose already read characters are `before`, nearest first. -/
def lowerAfter (before : Text) : Text → Text
  | [] => []
  | c :: rest =>
    (if c = 'Σ' then [lowerSigma before rest] else lowerChar c) ++ lowerAfter (c :: before) rest

/-- The lower case of a text. -/
def lower (text : Text) : Text :=
  lowerAfter [] text

end ListQuery.Text
