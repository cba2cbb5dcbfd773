import ListQuery.Proofs.Number.IntegerText
import ListQuery.Settings

/-!
# Where settings come from

Each setting is what its variable says at the moment, or a fallback that the process fixed when it
started. `Configured` says so of an integer and `Switched` of a switch, and `InEffect` of all of
them together. Such a configuration is the one that the settings compute (`inEffect_iff`).
-/

namespace ListQuery.Settings

variable {environment : Environment} {source : Variable}

/-- The value of an integer setting: what its variable writes, or the fallback if the variable is
unset or writes no integer. -/
inductive Configured (environment : Environment) (source : Variable) (fallback : Int) :
    Int → Prop where
  | written {text : Text} {value : Int} (isSet : environment.value? source = some text)
      (writes : Integer.Writes text value) : Configured environment source fallback value
  | unset (isUnset : environment.value? source = none) :
      Configured environment source fallback fallback
  | unwritten {text : Text} (isSet : environment.value? source = some text)
      (noInteger : ∀ value, ¬ Integer.Writes text value) :
      Configured environment source fallback fallback

/-- An integer setting has the configured value. -/
theorem configured_integer (environment : Environment) (source : Variable) (fallback : Int) :
    Configured environment source fallback (integer environment source fallback) := by
  unfold integer
  cases isSet : environment.value? source with
  | none => exact .unset isSet
  | some text =>
    rw [Option.bind_some]
    cases read : Integer.ofText? text with
    | some value => exact .written isSet (Integer.ofText?_eq_some_iff.1 read)
    | none =>
      refine .unwritten isSet fun value writes => ?_
      cases read.symm.trans (Integer.ofText?_eq_some_iff.2 writes)

/-- An integer setting has one value. -/
theorem configured_iff {fallback value : Int} : Configured environment source fallback value ↔
    value = integer environment source fallback := by
  constructor
  · rintro (⟨isSet, writes⟩ | isUnset | ⟨isSet, noInteger⟩)
    · simp [integer, isSet, Integer.ofText?_eq_some_iff.2 writes]
    · simp [integer, isUnset]
    · rename_i text
      have unread : Integer.ofText? text = none := by
        refine Option.eq_none_iff_forall_ne_some.2 fun value read => ?_
        exact noInteger value (Integer.ofText?_eq_some_iff.1 read)
      simp [integer, isSet, unread]
  · rintro rfl
    exact configured_integer environment source fallback

/-- The texts that switch a feature on are three words, in any letter case and with any blanks
around them. -/
def SwitchesOn (text : Text) : Prop :=
  Text.lower (Text.trim text) ∈ (["1", "true", "yes"] : List Text)

/-- The state of a switch: that of its variable, or of the fallback if the variable is unset. -/
inductive Switched (environment : Environment) (source : Variable) (fallback : Text) :
    Bool → Prop where
  | written {text : Text} {on : Bool} (isSet : environment.value? source = some text)
      (state : on = true ↔ SwitchesOn text) : Switched environment source fallback on
  | unset {on : Bool} (isUnset : environment.value? source = none)
      (state : on = true ↔ SwitchesOn fallback) : Switched environment source fallback on

/-- A text switches a feature on exactly if it is one of the words. -/
theorem isSwitchedOn_iff {text : Text} : isSwitchedOn text = true ↔ SwitchesOn text :=
  List.contains_iff_mem

/-- A switch has one state. -/
theorem switched_iff {fallback : Text} {on : Bool} : Switched environment source fallback on ↔
    on = isSwitchedOn ((environment.value? source).getD fallback) := by
  rw [Bool.eq_iff_iff, isSwitchedOn_iff]
  constructor
  · rintro (⟨isSet, state⟩ | ⟨isUnset, state⟩)
    · rwa [isSet]
    · rwa [isUnset]
  · intro state
    cases isSet : environment.value? source with
    | none => exact .unset isSet (by rwa [isSet] at state)
    | some text => exact .written isSet (by rwa [isSet] at state)

/-- A configuration is in effect: each of its values comes from its variable or from the fallback
for it. -/
structure InEffect (settings : Settings) (environment : Environment) (config : Config) : Prop where
  metricsEnabled :
    Switched environment .metricsEnabled settings.metricsEnabled config.metricsEnabled
  standard : Configured environment .defaultLimit settings.defaultLimit config.limits.standard
  least : Configured environment .minLimit settings.minLimit config.limits.least
  most : Configured environment .maxLimit settings.maxLimit config.limits.most
  maxExpressionLength : Configured environment .maxExpressionLength settings.maxExpressionLength
    config.maxExpressionLength

/-- One configuration is in effect under an environment. -/
theorem inEffect_iff {settings : Settings} {config : Config} :
    settings.InEffect environment config ↔ config = settings.inEffect environment := by
  constructor
  · rintro ⟨metricsEnabled, standard, least, most, maxExpressionLength⟩
    obtain ⟨enabled, ⟨first, second, third⟩, length⟩ := config
    rw [switched_iff] at metricsEnabled
    rw [configured_iff] at standard least most maxExpressionLength
    subst metricsEnabled standard least most maxExpressionLength
    rfl
  · rintro rfl
    exact ⟨switched_iff.2 rfl, configured_integer _ _ _, configured_integer _ _ _,
      configured_integer _ _ _, configured_integer _ _ _⟩

end ListQuery.Settings
