/-!
# Code points

Configuration can name one half of a surrogate pair by an escape. Such a half is a code point of
its own, different from every character, and a text that holds one has no encoded form. All other
code points are characters, and a character is taken for its code point without mention.
-/

namespace ListQuery

/-- A Unicode code point: a character, or the surrogate at an offset from the first. -/
inductive CodePoint where
  | scalar (c : Char)
  | surrogate (offset : Fin 0x800)
deriving Repr, DecidableEq

namespace CodePoint

instance : Coe Char CodePoint where
  coe := scalar

/-- The number of a code point. -/
def toNat : CodePoint → Nat
  | scalar c => c.toNat
  | surrogate offset => 0xD800 + offset

/-- The code point of a number; a number beyond all code points gives the null character. -/
def ofNat (n : Nat) : CodePoint :=
  if h : 0xD800 ≤ n ∧ n < 0xE000 then .surrogate ⟨n - 0xD800, by omega⟩
  else .scalar (Char.ofNat n)

/-- Whether a code point is a character. -/
def isScalar : CodePoint → Bool
  | scalar _ => true
  | surrogate _ => false

/-- The code point with an ASCII letter turned to lower case. -/
def toAsciiLower : CodePoint → CodePoint
  | scalar c => scalar c.toLower
  | surrogate offset => surrogate offset

/-- The code point with an ASCII letter turned to upper case. -/
def toAsciiUpper : CodePoint → CodePoint
  | scalar c => scalar c.toUpper
  | surrogate offset => surrogate offset

/-- The bytes of a code point in UTF-8, which a surrogate does not have. -/
def utf8 : CodePoint → List UInt8
  | scalar c => String.utf8EncodeChar c
  | surrogate _ => []

/-- The number of a character is outside the range of surrogates. -/
theorem toNat_scalar_lt_or_le (c : Char) : c.toNat < 0xD800 ∨ 0xE000 ≤ c.toNat := by
  have valid := c.valid
  simp only [UInt32.isValidChar, Nat.isValidChar] at valid
  have same : c.val.toNat = c.toNat := rfl
  omega

/-- A code point is the one of its number. -/
theorem ofNat_toNat (c : CodePoint) : ofNat c.toNat = c := by
  cases c with
  | scalar c =>
    have outside := toNat_scalar_lt_or_le c
    have : ¬ (0xD800 ≤ c.toNat ∧ c.toNat < 0xE000) := by omega
    simp [ofNat, toNat, this]
  | surrogate offset =>
    have := offset.isLt
    have inside : 0xD800 ≤ 0xD800 + offset.val ∧ 0xD800 + offset.val < 0xE000 := by omega
    simp [ofNat, toNat, inside]

/-- The number of the code point of a number is that number. -/
theorem toNat_ofNat {n : Nat} (bounded : n < 0x110000) : (ofNat n).toNat = n := by
  unfold ofNat
  split
  · simp only [toNat]
    omega
  · have valid : n.isValidChar := by
      simp only [Nat.isValidChar]
      omega
    rw [toNat, Char.ofNat, dif_pos valid]
    rfl

/-- Code points with one number are equal. -/
theorem toNat_inj {a b : CodePoint} : a.toNat = b.toNat ↔ a = b :=
  ⟨fun same => by rw [← ofNat_toNat a, same, ofNat_toNat], fun same => congrArg toNat same⟩

end CodePoint

end ListQuery
