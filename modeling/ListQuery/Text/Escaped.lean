import ListQuery.Text.Basic

/-!
# Escaped bytes

An operating system keeps texts as bytes: those of UTF-8, and for each surrogate from U+DC80 to
U+DCFF the single byte that it stands for. When such bytes are read back, those that write a
character become that character, and the others become surrogates again.
-/

namespace ListQuery.Text

/-- The byte that a surrogate stands for. -/
def escapedByte? (c : CodePoint) : Option UInt8 :=
  if 0xDC80 ≤ c.toNat && c.toNat ≤ 0xDCFF then some (.ofNat (c.toNat - 0xDC00)) else none

/-- Whether a text has bytes: those of its characters, and those that surrogates stand for. -/
def hasBytes (text : Text) : Bool :=
  text.all fun c => c.isScalar || (escapedByte? c).isSome

/-- The six bits that a byte behind the first one of a character carries. -/
def continuationBits (byte : UInt8) : Nat := byte.toNat % 64

/-- The character that some bytes write, if they are its UTF-8 form. -/
def character? (bytes : List UInt8) : Option CodePoint :=
  let number := match bytes with
    | [a, b] => a.toNat % 32 * 64 + continuationBits b
    | [a, b, c] => (a.toNat % 16 * 64 + continuationBits b) * 64 + continuationBits c
    | [a, b, c, d] =>
      ((a.toNat % 8 * 64 + continuationBits b) * 64 + continuationBits c) * 64 + continuationBits d
    | _ => 0
  some (.ofNat number) |>.filter (·.utf8 = bytes)

/-- The character that the first two, three or four code points of a text write as bytes, and how
many code points more than one it takes. -/
def leading? (text : Text) : Option (CodePoint × Nat) :=
  [1, 2, 3].findSome? fun more =>
    ((text.take (more + 1)).mapM escapedByte?).bind fun bytes =>
      (character? bytes).map fun character => (character, more)

/-- The text that the bytes of a text are read as, the first code points of which have been read. -/
def readBackFrom : (read : Nat) → Text → Text
  | _, [] => []
  | read + 1, _ :: rest => readBackFrom read rest
  | 0, c :: rest =>
    match leading? (c :: rest) with
    | some (character, more) => character :: readBackFrom more rest
    | none => c :: readBackFrom 0 rest

/-- The text that the bytes of a text are read as. -/
def readBack (text : Text) : Text :=
  readBackFrom 0 text

/-- No character stands for a byte of its own. -/
theorem escapedByte?_of_isScalar {c : CodePoint} (isScalar : c.isScalar = true) :
    escapedByte? c = none := by
  cases c with
  | scalar c =>
    have outside := CodePoint.toNat_scalar_lt_or_le c
    refine if_neg fun inside => ?_
    obtain ⟨least, most⟩ := Bool.and_eq_true_iff.1 inside
    replace least : 0xDC80 ≤ c.toNat := of_decide_eq_true least
    replace most : c.toNat ≤ 0xDCFF := of_decide_eq_true most
    omega
  | surrogate => cases isScalar

/-- A text of characters is read back as it is. -/
theorem readBack_of_isEncodable {text : Text} (encodable : isEncodable text = true) :
    readBack text = text := by
  induction text with
  | nil => rfl
  | cons c rest ih =>
    obtain ⟨isScalar, others⟩ := Bool.and_eq_true_iff.1 encodable
    have nothing : leading? (c :: rest) = none := by
      simp [leading?, escapedByte?_of_isScalar isScalar]
    rw [readBack, readBackFrom, nothing]
    exact congrArg (c :: ·) (ih others)

end ListQuery.Text
