import ListQuery.Proofs.FirstFault
import ListQuery.Proofs.Settings
import ListQuery.Service.Session

/-!
# How limits are read

    limit := sign? digit{1,19}

A limit of a query is narrower than the integers of the configuration that bounds it: it has ASCII
digits only, few of them, and nothing around or between them. `Limit.Writes` relates a text of this
form to its number, and `Limit.Judged` says what becomes of any text under given bounds. A session
reads limits by these rules under every configuration, bounds that no limit meets included, and
counts each reading once (`Session.reads_limits`).
-/

namespace ListQuery

open Text

namespace Limit

/-! ## Limit texts -/

/-- A text writes a limit: a sign and at most nineteen digits. -/
inductive Writes : Text → Int → Prop where
  | intro {sign digits : Text} {negative : Bool} (isSign : Integer.IsSign negative sign)
      (run : DigitRun digits) (bounded : digits.length ≤ 19) :
      Writes (sign ++ digits) (Integer.signed negative (digitsValue digits))

/-- A limit is read exactly from the texts that write it. -/
theorem ofText?_eq_some_iff_writes {raw : Text} {limit : Int} :
    ofText? raw = some limit ↔ Writes raw limit := by
  rw [ofText?_eq_some_iff]
  constructor
  · rintro ⟨negative, digits, split, run, bounded, rfl⟩
    obtain ⟨sign, isSign, same⟩ := Integer.exists_sign raw
    rw [split] at isSign same
    rw [same]
    exact .intro isSign run bounded
  · rintro ⟨isSign, run, bounded⟩
    rename_i sign digits negative
    exact ⟨negative, digits, Integer.splitSign_digits isSign run, run, bounded, rfl⟩

/-- A limit text consists of digits behind a mark of a sign, and has at most nineteen of them. -/
theorem Writes.narrow {raw : Text} {limit : Int} (writes : Writes raw limit) :
    (∀ c ∈ raw, isAsciiDigit c = true ∨ Integer.isSignMark c = true) ∧
      raw.countP isAsciiDigit ≤ 19 := by
  obtain ⟨isSign, run, bounded⟩ := writes
  rename_i sign digits negative
  have marks : Within Integer.isSignMark sign := by
    cases isSign <;> decide
  have noDigits : sign.countP isAsciiDigit = 0 := by
    cases isSign <;> rfl
  constructor
  · intro c member
    rcases List.mem_append.1 member with front | back
    · exact .inr (marks c front)
    · exact .inl (run.digits c back)
  · rw [List.countP_append, noDigits, Nat.zero_add]
    exact List.countP_le_length.trans bounded

/-! ## Judgements -/

/-- What becomes of the limit of a query under given bounds. -/
inductive Judged (bounds : LimitBounds) : Option Text → Except Refusal Int → Prop where
  | absent : Judged bounds none (.ok bounds.standard)
  | empty : Judged bounds (some []) (.ok bounds.standard)
  | within {raw : Text} {limit : Int} (writes : Writes raw limit) (least : bounds.least ≤ limit)
      (most : limit ≤ bounds.most) : Judged bounds (some raw) (.ok limit)
  | outside {raw : Text} {limit : Int} (writes : Writes raw limit)
      (beyond : limit < bounds.least ∨ bounds.most < limit) :
      Judged bounds (some raw) (.error ⟨"limit", .outOfRange, some raw,
        some ("integer between " ++ ofInt bounds.least ++ " and " ++ ofInt bounds.most)⟩)
  | shapeless {raw : Text} (nonempty : raw ≠ []) (noLimit : ∀ limit, ¬ Writes raw limit) :
      Judged bounds (some raw) (.error ⟨"limit", .notAnInteger, some raw,
        some ("integer between " ++ ofInt bounds.least ++ " and " ++ ofInt bounds.most)⟩)

/-- A limit text is not empty. -/
theorem Writes.ne_nil {raw : Text} {limit : Int} (writes : Writes raw limit) : raw ≠ [] := by
  obtain ⟨isSign, run, bounded⟩ := writes
  simp [run.nonempty]

/-- Every limit is judged as it is read. -/
theorem judged_parse (bounds : LimitBounds) (raw : Option Text) :
    Judged bounds raw (parse bounds raw) := by
  cases raw with
  | none => exact .absent
  | some raw =>
    by_cases blank : raw = []
    · subst blank
      exact .empty
    · rw [parse, if_neg blank]
      split
      · rename_i unread
        refine .shapeless blank fun limit writes => ?_
        cases unread.symm.trans (ofText?_eq_some_iff_writes.2 writes)
      · rename_i limit read
        have writes := ofText?_eq_some_iff_writes.1 read
        split
        · rename_i inside
          exact .within writes inside.1 inside.2
        · rename_i outside
          exact .outside writes (by omega)

/-- A limit is read exactly as it is judged. -/
theorem judged_iff {bounds : LimitBounds} {raw : Option Text} {result : Except Refusal Int} :
    Judged bounds raw result ↔ result = parse bounds raw := by
  constructor
  · intro judged
    cases judged with
    | absent => rfl
    | empty => rfl
    | within writes least most =>
      have read := ofText?_eq_some_iff_writes.2 writes
      simp [parse, writes.ne_nil, read, least, most]
    | outside writes beyond =>
      have read := ofText?_eq_some_iff_writes.2 writes
      simp only [parse, if_neg writes.ne_nil, read]
      rw [if_neg (by omega)]
      rfl
    | @shapeless raw nonempty noLimit =>
      have unread : ofText? raw = none := by
        cases read : ofText? raw with
        | none => rfl
        | some limit => exact absurd (ofText?_eq_some_iff_writes.1 read) (noLimit limit)
      simp only [parse, if_neg nonempty, unread]
      rfl
  · rintro rfl
    exact judged_parse bounds raw

/-- A text that holds anything else than digits and marks of a sign, or more than nineteen digits,
is refused for its form. -/
theorem judged_of_foreign (bounds : LimitBounds) {raw : Text}
    (foreign : (∃ c ∈ raw, isAsciiDigit c = false ∧ Integer.isSignMark c = false) ∨
      19 < raw.countP isAsciiDigit) :
    Judged bounds (some raw) (.error ⟨"limit", .notAnInteger, some raw,
      some ("integer between " ++ ofInt bounds.least ++ " and " ++ ofInt bounds.most)⟩) := by
  apply Judged.shapeless
  · rintro rfl
    simp at foreign
  · intro limit writes
    obtain ⟨known, few⟩ := writes.narrow
    rcases foreign with ⟨c, member, noDigit, noMark⟩ | many
    · rcases known c member with digit | mark
      · simp [noDigit] at digit
      · simp [noMark] at mark
    · omega

/-- The event that counts how a limit came out. -/
def event : Except Refusal Int → Event
  | .ok _ => .validation .limit none
  | .error refusal => .validation .limit (some refusal.reason)

end Limit

namespace Service.Session

open Limit (Judged)
open Settings (Configured)

/-! ## Limits of a session -/

/-- A session reads limits within the bounds that its environment configures. Each text is judged in
one way, and refused for its form if it holds a blank, an underscore, a digit of another script or a
twentieth digit. The judgement is counted once while metrics are enabled, and nothing else changes.
Every integer within the bounds is the limit that its shortest text asks for, unless it has too many
digits. -/
structure ReadsLimits (session : Session) : Prop where
  standard : Configured session.environment .defaultLimit session.process.settings.defaultLimit
    session.config.limits.standard
  least : Configured session.environment .minLimit session.process.settings.minLimit
    session.config.limits.least
  most : Configured session.environment .maxLimit session.process.settings.maxLimit
    session.config.limits.most
  answers : ∀ raw, ∃ result, (session.run (.parseLimit raw)).1 = .limit result ∧
    ∀ other, Judged session.config.limits raw other ↔ other = result
  refuses : ∀ raw : Text, ((∃ c ∈ raw, isAsciiDigit c = false ∧ Integer.isSignMark c = false) ∨
    19 < raw.countP isAsciiDigit) → (session.run (.parseLimit (some raw))).1 =
      .limit (.error ⟨"limit", .notAnInteger, some raw, some ("integer between " ++
        ofInt session.config.limits.least ++ " and " ++ ofInt session.config.limits.most)⟩)
  counts : ∀ raw result, Judged session.config.limits raw result → ∀ event,
    (session.run (.parseLimit raw)).2.ledger.count event = session.ledger.count event +
      if session.config.metricsEnabled = true ∧ event = Limit.event result then 1 else 0
  keeps : ∀ raw, (session.run (.parseLimit raw)).2 =
    { session with ledger := (session.run (.parseLimit raw)).2.ledger }
  readsBack : ∀ limit, session.config.limits.least ≤ limit → limit ≤ session.config.limits.most →
    limit.natAbs < 10 ^ 19 →
      (session.run (.parseLimit (some (ofInt limit)))).1 = .limit (.ok limit)

/-- The reading of a limit is counted as it came out. -/
theorem events_examineLimit (config : Config) (raw : Option Text) :
    (Query.examineLimit config raw).events =
      Query.countedIf config [Limit.event (Limit.parse config.limits raw)] := by
  unfold Query.examineLimit Examination.counted
  cases Limit.parse config.limits raw <;> rfl

/-- Every session reads limits by the rules, whatever its environment says. -/
theorem reads_limits (session : Session) : session.ReadsLimits where
  standard := Settings.configured_integer _ _ _
  least := Settings.configured_integer _ _ _
  most := Settings.configured_integer _ _ _
  answers := fun _ => ⟨_, rfl, fun _ => Limit.judged_iff⟩
  refuses := by
    intro raw foreign
    rw [Limit.judged_iff.1 (Limit.judged_of_foreign session.config.limits foreign)]
    rfl
  counts := by
    intro raw result judged event
    have counted := @Query.count_record_countedIf session.config [Limit.event result]
      (List.nodup_singleton _) session.ledger event
    rw [Limit.judged_iff.1 judged, ← events_examineLimit] at counted
    rw [Limit.judged_iff.1 judged, run, counted]
    simp only [List.mem_singleton]
  keeps := fun _ => rfl
  readsBack := by
    intro limit least most small
    have judged : Judged session.config.limits (some (ofInt limit)) (.ok limit) :=
      .within (Limit.ofText?_eq_some_iff_writes.1 (Limit.ofText?_ofInt_of_small small)) least most
    rw [Limit.judged_iff.1 judged]
    rfl

end Service.Session

end ListQuery
