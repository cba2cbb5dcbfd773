import ListQuery.Proofs.Number.Integer
import ListQuery.Proofs.Text.Numeral

/-!
# What integer texts look like

    integer := blank* sign? digits ("_" digits)* blank*

The digits may be of any script, and the number of them is limited. `Integer.Writes` relates a text
of this form to the integer that it writes, without a word about how it is read;
`ofText?_eq_some_iff` holds the reader against it in both directions.
-/

namespace ListQuery.Integer

open Text

/-! ## Signs -/

/-- A sign in front of a number: none, a plus or a minus. -/
inductive IsSign : Bool → Text → Prop where
  | absent : IsSign false []
  | plus : IsSign false [.scalar '+']
  | minus : IsSign true [.scalar '-']

/-- The marks of a sign. -/
def isSignMark (c : CodePoint) : Bool :=
  c = '+' || c = '-'

/-- A sign is split off what does not start with one. -/
theorem splitSign_append {negative : Bool} {sign body : Text} (isSign : IsSign negative sign)
    (unsigned : StopsAt isSignMark body) : splitSign (sign ++ body) = (negative, body) := by
  cases isSign with
  | plus => rfl
  | minus => rfl
  | absent =>
    cases body with
    | nil => rfl
    | cons c rest =>
      have noMark := stopsAt_cons.1 unsigned
      simp only [isSignMark, Bool.or_eq_false_iff, decide_eq_false_iff_not] at noMark
      unfold splitSign
      split <;> simp_all

/-- A text is the sign that is split off it and what is left. -/
theorem exists_sign (text : Text) :
    ∃ sign, IsSign (splitSign text).1 sign ∧ text = sign ++ (splitSign text).2 := by
  unfold splitSign
  split
  · exact ⟨_, .minus, rfl⟩
  · exact ⟨_, .plus, rfl⟩
  · exact ⟨_, .absent, rfl⟩

/-- A digit is no mark of a sign. -/
theorem stopsAt_of_digit {c : CodePoint} {rest : Text} (digit : isAsciiDigit c = true) :
    StopsAt isSignMark (c :: rest) := by
  have noPlus : c ≠ .scalar '+' := ne_of_class digit (by decide)
  have noMinus : c ≠ .scalar '-' := ne_of_class digit (by decide)
  simp [isSignMark, noPlus, noMinus]

/-- No sign is split off a run of digits. -/
theorem stopsAt_of_digitRun {digits : Text} (run : DigitRun digits) (rest : Text) :
    StopsAt isSignMark (digits ++ rest) := by
  obtain ⟨c, after, same, digit⟩ := run.exists_cons rest
  rw [same]
  exact stopsAt_of_digit digit

/-- A sign is split off the digits behind it. -/
theorem splitSign_digits {negative : Bool} {sign digits : Text} (isSign : IsSign negative sign)
    (run : DigitRun digits) : splitSign (sign ++ digits) = (negative, digits) := by
  apply splitSign_append isSign
  simpa using stopsAt_of_digitRun run []

/-- Readers of numbers take a sign as it is. -/
theorem IsSign.kept {negative : Bool} {sign : Text} (isSign : IsSign negative sign) :
    Within isKept sign := by
  cases isSign <;> decide

/-! ## Groups of digits -/

/-- Digits in front of an underscore are read before those behind it. -/
theorem digits?_append {group rest digits : Text} (run : DigitRun group)
    (read : digits? rest = some digits) :
    digits? (group ++ .scalar '_' :: rest) = some (group ++ digits) := by
  obtain ⟨nonempty, inside⟩ := run
  induction group with
  | nil => exact absurd rfl nonempty
  | cons c group ih =>
    obtain ⟨first, inside⟩ := within_cons.1 inside
    cases group with
    | nil => simp [digits?, first, read]
    | cons d group =>
      have noUnderscore : d ≠ .scalar '_' :=
        ne_of_class (within_cons.1 inside).1 (by decide)
      have others := ih (by simp) inside
      rw [List.cons_append] at others
      simp [digits?, first, noUnderscore, others]

/-- Digits are read from runs of them with single underscores between, and from nothing else. -/
theorem digits?_eq_some_iff {text digits : Text} :
    digits? text = some digits ↔
      ∃ groups : List Text, groups ≠ [] ∧ (∀ group ∈ groups, DigitRun group) ∧
        text = join [.scalar '_'] groups ∧ digits = groups.flatten := by
  constructor
  · intro read
    induction text using digits?.induct generalizing digits with
    | case1 => simp [digits?] at read
    | case2 c digit =>
      simp only [digits?, digit, if_true, Option.some.injEq] at read
      have run : DigitRun [c] := ⟨by simp, by simpa using digit⟩
      exact ⟨[[c]], by simp, by simpa using run, rfl, by simp [read]⟩
    | case3 c noDigit => simp [digits?, noDigit] at read
    | case4 c d rest digit ihRest ih =>
      have single : DigitRun [c] := ⟨by simp, by simpa using digit⟩
      by_cases skipped : d = .scalar '_'
      · -- The underscore closes a group of which `c` is the last digit.
        simp only [digits?, digit, skipped, if_true, Option.map_eq_some_iff] at read
        obtain ⟨digits, read, rfl⟩ := read
        obtain ⟨groups, some, runs, rfl, rfl⟩ := ihRest read
        refine ⟨[c] :: groups, by simp, List.forall_mem_cons.2 ⟨single, runs⟩, ?_, rfl⟩
        rw [skipped, join, join, List.intercalate_cons_of_ne_nil some]
        rfl
      · -- Any other code point has to go on with the group of `c`.
        simp only [digits?, digit, skipped, if_true, if_false, Option.map_eq_some_iff] at read
        obtain ⟨digits, read, rfl⟩ := read
        obtain ⟨groups, some, runs, same, rfl⟩ := ih read
        obtain ⟨group, groups, rfl⟩ := List.exists_cons_of_ne_nil some
        obtain ⟨run, runs⟩ := List.forall_mem_cons.1 runs
        have longer : DigitRun (c :: group) := ⟨by simp, within_cons.2 ⟨digit, run.digits⟩⟩
        refine ⟨(c :: group) :: groups, by simp, List.forall_mem_cons.2 ⟨longer, runs⟩, ?_, rfl⟩
        rw [join, List.intercalate_cons_cons_left, same]
        rfl
    | case5 c d rest noDigit => simp [digits?, noDigit] at read
  · rintro ⟨groups, some, runs, rfl, rfl⟩
    induction groups with
    | nil => exact absurd rfl some
    | cons group groups ih =>
      obtain ⟨run, runs⟩ := List.forall_mem_cons.1 runs
      by_cases last : groups = []
      · simpa [last, join] using digits?_of_digitRun run
      · have others := digits?_append run (ih last runs)
        rwa [join, List.intercalate_cons_of_ne_nil last, List.append_assoc, List.flatten_cons]

/-! ## Integer texts -/

/-- A text writes an integer: between blanks, a sign and runs of digits with single underscores
between them, not too many digits in all. -/
inductive Writes : Text → Int → Prop where
  | intro {front body back sign : Text} {negative : Bool} {groups : List Text}
      (isFront : Within isNumeralBlank front) (isBack : Within isNumeralBlank back)
      (plain : plainDigits body = sign ++ join [.scalar '_'] groups)
      (isSign : IsSign negative sign) (nonempty : groups ≠ [])
      (runs : ∀ group ∈ groups, DigitRun group)
      (bounded : groups.flatten.length ≤ maxDigits) :
      Writes (front ++ body ++ back) (signed negative (digitsValue groups.flatten))

/-- The code points of an integer text between its blanks. -/
def isIntegerMark (c : CodePoint) : Bool :=
  isKept c || c = '_'

/-- Groups of digits with underscores between them start with a digit. -/
theorem stopsAt_join {groups : List Text} (nonempty : groups ≠ [])
    (runs : ∀ group ∈ groups, DigitRun group) :
    StopsAt isSignMark (join [.scalar '_'] groups) := by
  obtain ⟨group, groups, rfl⟩ := List.exists_cons_of_ne_nil nonempty
  have run := runs group (by simp)
  by_cases last : groups = []
  · simpa [last, join] using stopsAt_of_digitRun run []
  · rw [join, List.intercalate_cons_of_ne_nil last, List.append_assoc]
    exact stopsAt_of_digitRun run _

/-- A sign and groups of digits are made of marks of integer texts. -/
theorem within_isIntegerMark {negative : Bool} {sign : Text} {groups : List Text}
    (isSign : IsSign negative sign) (runs : ∀ group ∈ groups, DigitRun group) :
    Within isIntegerMark (sign ++ join [.scalar '_'] groups) := by
  have keeps : ∀ {text : Text}, Within isKept text → Within isIntegerMark text :=
    fun kept c member => by simp [isIntegerMark, kept c member]
  refine within_append.2 ⟨keeps isSign.kept, ?_⟩
  induction groups with
  | nil => exact within_nil
  | cons group groups ih =>
    obtain ⟨run, runs⟩ := List.forall_mem_cons.1 runs
    have isGroup := keeps (within_isKept run.digits)
    by_cases last : groups = []
    · simpa [last, join] using isGroup
    · have underscore : isIntegerMark (.scalar '_') = true := by decide
      rw [join, List.intercalate_cons_of_ne_nil last, List.append_assoc]
      exact within_append.2 ⟨isGroup, within_cons.2 ⟨underscore, ih runs⟩⟩

/-- Marks of integer texts are in ASCII and no blanks. -/
theorem ascii_of_marks {text : Text} (marks : Within isIntegerMark text) :
    ∀ c ∈ text, c.toNat < 128 ∧ isBlank c = false := by
  intro c member
  have mark := marks c member
  simp only [isIntegerMark, Bool.or_eq_true, decide_eq_true_eq] at mark
  rcases mark with kept | rfl
  · exact ⟨(isKept_iff.1 kept).1, (isKept_iff.1 kept).2.1⟩
  · decide

/-- An integer is read from a text exactly if the text writes it. -/
theorem ofText?_eq_some_iff {text : Text} {value : Int} :
    ofText? text = some value ↔ Writes text value := by
  constructor
  · intro read
    obtain ⟨ascii, isAscii, read⟩ := Option.bind_eq_some_iff.1 read
    obtain ⟨sign, isSign, same⟩ :=
      exists_sign (dropTrailing isAsciiBlank (ascii.dropWhile isAsciiBlank))
    rcases parts : splitSign (dropTrailing isAsciiBlank (ascii.dropWhile isAsciiBlank)) with
      ⟨negative, unsigned⟩
    rw [parts] at read isSign same
    obtain ⟨digits, areDigits, read⟩ := Option.bind_eq_some_iff.1 read
    obtain ⟨groups, some, runs, isBody, rfl⟩ := digits?_eq_some_iff.1 areDigits
    obtain ⟨front, back, isText, isFront, isBack⟩ :=
      exists_eq_append_inside_append isNumeralBlank text
    have inside := numeral?_of_spaced isAscii
    rw [same, isBody,
      numeral?_eq_some_iff (ascii_of_marks (within_isIntegerMark isSign runs))] at inside
    split at read
    · rename_i bounded
      rw [isText, ← Option.some.inj read]
      exact .intro isFront isBack inside isSign some runs bounded
    · cases read
  · rintro ⟨isFront, isBack, plain, isSign, some, runs, bounded⟩
    rename_i front body back sign negative groups
    have marks := ascii_of_marks (within_isIntegerMark isSign runs)
    obtain ⟨frontAscii, readFront, frontBlank⟩ := exists_numeral?_blanks isFront
    obtain ⟨backAscii, readBack, backBlank⟩ := exists_numeral?_blanks isBack
    have readBody := (numeral?_eq_some_iff marks).2 plain
    have read := numeral?_append (numeral?_append readFront readBody) readBack
    have bare : Bare isAsciiBlank (sign ++ join [.scalar '_'] groups) := by
      refine .of_forall fun c member => ?_
      by_contra blank
      have isBlank := isBlank_of_isAsciiBlank (Bool.not_eq_false _ ▸ blank)
      simp [(marks c member).2] at isBlank
    have areDigits := digits?_eq_some_iff.2 ⟨groups, some, runs, rfl, rfl⟩
    simp only [ofText?, read, Option.bind_eq_bind, Option.bind_some,
      bare.dropTrailing_dropWhile_append frontBlank backBlank,
      splitSign_append isSign (stopsAt_join some runs), areDigits, bounded, if_true]

end ListQuery.Integer
