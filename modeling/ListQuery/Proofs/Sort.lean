import ListQuery.Proofs.AllowList
import ListQuery.Proofs.Text.Case
import ListQuery.Proofs.Text.Pieces
import ListQuery.Proofs.Text.Trim
import ListQuery.Sort

/-!
# Sort orders written back

`Reads` says which key a part of a sort order stands for, and `parse_eq_ok_iff` that a sort order
is read part by part. The text of a key stands for that key and is the shortest that does, so the
keys of a sort order, written one after the other, are read as the same keys again.
-/

namespace ListQuery.Sort

open Text

/-- A part of a sort order stands for a key: its first word is the column, and the rest is the
keyword of the direction in some letter case. -/
def Reads (source : Text) (key : Key) : Prop :=
  ∃ direction, splitFirstWord source = (key.column, direction) ∧
    Direction.ofKeyword? direction = some key.direction

/-- A direction has at least one code point. -/
theorem Direction.ne_nil {text : Text} {direction : Direction}
    (named : Direction.ofKeyword? text = some direction) : text ≠ [] := by
  rintro rfl
  simp [Direction.ofKeyword?, upper, Direction.keyword] at named

/-- A part is read as a key exactly if it stands for it. -/
theorem directed_eq_ok_iff {source : Text} {key : Key} :
    ((Part.ofText source).directed >>= fun directed => Key.ofTexts directed.1 directed.2) =
      .ok key ↔ Reads source key := by
  obtain ⟨column, direction⟩ := key
  rcases split : splitFirstWord source with ⟨word, remainder⟩
  simp only [bind_eq_ok_iff, Part.ofText, Part.directed, Reads, split]
  by_cases blank : remainder = []
  · subst blank
    constructor
    · rintro ⟨_, impossible, -⟩
      simp at impossible
    · rintro ⟨_, same, named⟩
      cases same
      exact absurd rfl (Direction.ne_nil named)
  · rw [if_neg blank]
    constructor
    · rintro ⟨_, isDirected, read⟩
      cases isDirected
      unfold Key.ofTexts at read
      split at read
      · rename_i named
        cases read
        exact ⟨remainder, rfl, named⟩
      · simp at read
    · rintro ⟨_, same, named⟩
      cases same
      exact ⟨_, rfl, by simp [Key.ofTexts, named]⟩

/-- The columns of the keys are the first words of the parts. -/
theorem columns_of_reads {sources : List Text} {keys : List Key}
    (reads : List.Forall₂ Reads sources keys) :
    (sources.map Part.ofText).map Part.column = keys.map Key.column := by
  induction reads with
  | nil => rfl
  | cons first rest ih =>
    obtain ⟨direction, split, -⟩ := first
    simp only [List.map_cons, ih, Part.ofText, split]

/-- The keys that some parts stand for. -/
def readParts (parts : List Part) : Except Rejection (List Key) :=
  parts.mapM Part.directed >>= fun directed =>
    directed.mapM fun directed => Key.ofTexts directed.1 directed.2

/-- The parts of a sort order; the empty one has none. -/
def sources (raw : Text) : List Text :=
  if raw = [] then [] else pieces ',' raw

/-- The columns of a sort order pass the allow-list or are refused before any direction is
looked at. -/
theorem parse_eq (allowed : AllowList) (raw : Text) :
    parse allowed raw = allowed.requireNonempty >>= fun _ =>
      allowed.requireAll (((sources raw).map Part.ofText).map Part.column) >>= fun _ =>
        readParts ((sources raw).map Part.ofText) := by
  unfold parse sources readParts
  split
  · simp [AllowList.requireAll, bind, Except.bind, pure, Except.pure]
  · rfl

/-- The parts of a sort order are read one by one. -/
theorem readParts_eq_ok_iff {sources : List Text} {keys : List Key} :
    readParts (sources.map Part.ofText) = .ok keys ↔ List.Forall₂ Reads sources keys := by
  rw [readParts, mapM_mapM_eq_ok_iff, List.forall₂_map_left_iff]
  simp only [directed_eq_ok_iff]

/-- A sort order is read part by part, and every column has to be allowed. -/
theorem parse_eq_ok_iff {allowed : AllowList} {raw : Text} {keys : List Key} :
    parse allowed raw = .ok keys ↔ allowed ≠ [] ∧ List.Forall₂ Reads (sources raw) keys ∧
      ∀ column ∈ keys.map Key.column, column ∈ allowed := by
  rw [parse_eq]
  constructor
  · intro accepted
    obtain ⟨_, passed, accepted⟩ := bind_eq_ok_iff.1 accepted
    obtain ⟨_, listed, read⟩ := bind_eq_ok_iff.1 accepted
    have reads := readParts_eq_ok_iff.1 read
    rw [columns_of_reads reads, AllowList.requireAll_eq_ok_iff] at listed
    exact ⟨AllowList.requireNonempty_eq_ok_iff.1 passed, reads, listed⟩
  · rintro ⟨nonempty, reads, listed⟩
    refine bind_eq_ok_iff.2 ⟨(), AllowList.requireNonempty_of_ne_nil nonempty, ?_⟩
    rw [columns_of_reads reads]
    exact bind_eq_ok_iff.2
      ⟨(), AllowList.requireAll_eq_ok_iff.2 listed, readParts_eq_ok_iff.2 reads⟩

/-! ## Texts of keys -/

/-- A word: a nonempty text without blanks. -/
structure IsWord (text : Text) : Prop where
  nonempty : text ≠ []
  word : Within (! isBlank ·) text

/-- A word and a bare text with blanks between and around them are the first word and the rest. -/
theorem splitFirstWord_spaced {front word gap rest back : Text} (isWord : IsWord word)
    (bare : Bare isBlank rest) (isFront : Within isBlank front) (isGap : Within isBlank gap)
    (spaced : gap ≠ []) (isBack : Within isBlank back) :
    splitFirstWord (front ++ word ++ gap ++ rest ++ back) = (word, rest) := by
  have start : StopsAt isBlank (word ++ (gap ++ rest ++ back)) := by
    cases word with
    | nil => exact absurd rfl isWord.nonempty
    | cons c word => simpa using (within_cons.1 isWord.word).1
  have ends : StopsAt (! isBlank ·) (gap ++ rest ++ back) := by
    cases gap with
    | nil => exact absurd rfl spaced
    | cons c gap => simpa using (within_cons.1 isGap).1
  have parts : front ++ word ++ gap ++ rest ++ back =
      front ++ (word ++ (gap ++ rest ++ back)) := by
    simp only [List.append_assoc]
  simp only [splitFirstWord, parts, dropWhile_run isFront start, takeWhile_run isWord.word ends,
    dropWhile_run isWord.word ends, trim_spaced isGap bare isBack]

/-- A text with something behind its first word is made of the two, with blanks between and around
them. -/
theorem exists_eq_of_splitFirstWord {text word rest : Text}
    (split : splitFirstWord text = (word, rest)) (more : rest ≠ []) :
    IsWord word ∧ ∃ front gap back, text = front ++ word ++ gap ++ rest ++ back ∧
      Within isBlank front ∧ Within isBlank gap ∧ gap ≠ [] ∧ Within isBlank back := by
  obtain ⟨start, isStart⟩ : ∃ start, start = text.dropWhile isBlank := ⟨_, rfl⟩
  obtain ⟨behind, isBehind⟩ : ∃ behind, behind = start.dropWhile (! isBlank ·) := ⟨_, rfl⟩
  obtain ⟨isWord, isRest⟩ := Prod.mk.inj split
  rw [← isStart] at isWord isRest
  rw [← isBehind] at isRest
  have whole : text.takeWhile isBlank ++ start = text := by
    rw [isStart, List.takeWhile_append_dropWhile]
  have parts : word ++ behind = start := by
    rw [← isWord, isBehind, List.takeWhile_append_dropWhile]
  have front : StopsAt isBlank start := isStart ▸ stopsAt_dropWhile text
  have ends : StopsAt (! isBlank ·) behind := isBehind ▸ stopsAt_dropWhile start
  obtain ⟨gap, back, spaced, isGap, isBack⟩ := exists_eq_append_trim_append behind
  rw [isRest] at spaced
  -- What stands behind the word starts with a blank, and the rest does not.
  have isSpaced : gap ≠ [] := by
    rintro rfl
    have bare : StopsAt isBlank rest := isRest ▸ (bare_trim behind).front
    cases rest with
    | nil => exact more rfl
    | cons c rest =>
      have outside := stopsAt_cons.1 bare
      have inside : isBlank c = true := by simpa [spaced] using ends
      simp [inside] at outside
  refine ⟨⟨?_, isWord ▸ within_takeWhile start⟩, text.takeWhile isBlank, gap, back, ?_,
    within_takeWhile text, isGap, isSpaced, isBack⟩
  · rintro rfl
    cases gap with
    | nil => exact isSpaced rfl
    | cons c gap =>
      have outside : isBlank c = false := by simpa [← parts, spaced] using front
      simp [(within_cons.1 isGap).1] at outside
  · calc text = text.takeWhile isBlank ++ start := whole.symm
      _ = text.takeWhile isBlank ++ word ++ gap ++ rest ++ back := by
        rw [← parts, spaced]
        simp only [List.append_assoc]

/-- The keyword of a direction holds no expansion of upper case. -/
theorem Direction.plain_keyword (direction : Direction) :
    ∀ expansion ∈ upperExpansions,
      ¬ expansion.2.map CodePoint.ofNat <:+: direction.keyword := by
  cases direction <;> decide

/-- A text that names a direction is as long as its keyword. -/
theorem Direction.length_of_ofKeyword? {text : Text} {direction : Direction}
    (named : Direction.ofKeyword? text = some direction) :
    text.length = direction.keyword.length := by
  have same : upper text = direction.keyword := by
    unfold Direction.ofKeyword? at named
    grind
  have plain := direction.plain_keyword
  rw [← same] at plain ⊢
  exact (length_upper plain).symm

/-- A part that stands for a key has a word for its column, which holds no other code points, and
is no shorter than the text of the key. -/
theorem Reads.source {source : Text} {key : Key} (reads : Reads source key) :
    IsWord key.column ∧ key.text.length ≤ source.length ∧ ∀ c ∈ key.column, c ∈ source := by
  obtain ⟨direction, split, named⟩ := reads
  obtain ⟨isWord, front, gap, back, rfl, -, -, spaced, -⟩ :=
    exists_eq_of_splitFirstWord split (Direction.ne_nil named)
  have sameLength := Direction.length_of_ofKeyword? named
  have some := List.length_pos_iff.2 spaced
  refine ⟨isWord, ?_, fun c member => by simp [member]⟩
  simp [Key.text]
  omega

/-- The text of a key stands for it. -/
theorem reads_text {key : Key} (isWord : IsWord key.column) : Reads key.text key := by
  have bare : Bare isBlank key.direction.keyword := by
    refine .of_forall ?_
    cases key.direction <;> decide
  have space : Within isBlank [CodePoint.scalar ' '] := within_cons.2 ⟨by decide, within_nil⟩
  have split := splitFirstWord_spaced isWord bare within_nil space (by simp) within_nil
  refine ⟨key.direction.keyword, ?_, ?_⟩
  · simpa [Key.text] using split
  · cases key.direction <;> decide

/-- The text of a key holds no comma if its column holds none. -/
theorem not_mem_text {key : Key} (free : CodePoint.scalar ',' ∉ key.column) :
    CodePoint.scalar ',' ∉ key.text := by
  have keyword : CodePoint.scalar ',' ∉ key.direction.keyword := by
    cases key.direction <;> decide
  simp [Key.text, free, keyword]

/-! ## Sort orders read again -/

/-- The text of a sort order: its keys, separated by commas. -/
def text (keys : List Key) : Text :=
  join [','] (keys.map Key.text)

/-- Keys that parts stand for are read from their text, part by part. -/
theorem reads_sources_text {raw : Text} {keys : List Key}
    (reads : List.Forall₂ Reads (sources raw) keys) :
    List.Forall₂ Reads (sources (text keys)) keys ∧ (text keys).length ≤ raw.length := by
  by_cases blank : raw = []
  · subst blank
    cases reads
    exact ⟨.nil, Nat.le_refl _⟩
  rw [sources, if_neg blank] at reads
  have free : ∀ source ∈ pieces ',' raw, CodePoint.scalar ',' ∉ source :=
    fun source member => not_mem_of_mem_pieces member
  have facts : List.Forall₂ (fun key source =>
      (IsWord key.column ∧ CodePoint.scalar ',' ∉ key.text) ∧
        key.text.length ≤ source.length) keys (pieces ',' raw) := by
    refine List.Forall₂.flip (((List.forall₂_and_left _ _).2 ⟨free, reads⟩).imp ?_)
    rintro source key ⟨noComma, read⟩
    obtain ⟨isWord, short, subset⟩ := read.source
    exact ⟨⟨isWord, not_mem_text fun found => noComma (subset _ found)⟩, short⟩
  obtain ⟨plain, shorter⟩ := (List.forall₂_and_left _ _).1 facts
  have someKey : keys ≠ [] := by
    rintro rfl
    exact pieces_ne_nil ',' raw (List.forall₂_nil_right_iff.1 reads)
  have parts : pieces ',' (text keys) = keys.map Key.text :=
    pieces_join (by simpa using someKey) (List.forall_mem_map.2 fun key member =>
      (plain key member).2)
  have someText : text keys ≠ [] := by
    obtain ⟨key, member⟩ := List.exists_mem_of_ne_nil keys someKey
    exact join_ne_nil (List.mem_map_of_mem member) (by simp [Key.text])
  constructor
  · rw [sources, if_neg someText, parts, List.forall₂_map_left_iff]
    exact List.forall₂_same.2 fun key member => reads_text (plain key member).1
  · have short : (text keys).length ≤ (join [','] (pieces ',' raw)).length :=
      length_join_le (List.forall₂_map_left_iff.2 shorter)
    rwa [join_pieces] at short

/-- The keys of a sort order are read from their text, which is no longer than the text they were
read from. -/
theorem parse_text {allowed : AllowList} {raw : Text} {keys : List Key}
    (read : parse allowed raw = .ok keys) :
    parse allowed (text keys) = .ok keys ∧ (text keys).length ≤ raw.length := by
  obtain ⟨nonempty, reads, listed⟩ := parse_eq_ok_iff.1 read
  obtain ⟨readsText, short⟩ := reads_sources_text reads
  exact ⟨parse_eq_ok_iff.2 ⟨nonempty, readsText, listed⟩, short⟩

end ListQuery.Sort
