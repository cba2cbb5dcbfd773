import ListQuery.Environment
import ListQuery.Json.Reader
import ListQuery.Number.Integer
import ListQuery.Registry

/-!
# Settings

Every setting is read from the environment at the moment of use. The value of a variable that is
unset, or is no integer where one is needed, is replaced by a fallback. `Settings` holds the
fallbacks and `Config` the values in effect. The lists of resources are kept apart, because
reading them can fail, and needs room on the call stack.
-/

namespace ListQuery

/-- The values to fall back on. -/
structure Settings where
  logLevel : Text
  metricsEnabled : Text
  defaultLimit : Int
  minLimit : Int
  maxLimit : Int
  maxExpressionLength : Int
  resourceColumns : Text
deriving Repr, DecidableEq

/-- The bounds of a limit, and the limit of a query that asks for none. -/
structure LimitBounds where
  standard : Int
  least : Int
  most : Int
deriving Repr, DecidableEq

/-- The values in effect. -/
structure Config where
  metricsEnabled : Bool
  limits : LimitBounds
  maxExpressionLength : Int
deriving Repr, DecidableEq

namespace Settings

/-- The fallbacks of the service. -/
def standard : Settings :=
  ⟨"INFO", "true", 10, 1, 1000, 2048, []⟩

/-- The integer value of a variable, or the fallback. -/
def integer (environment : Environment) (source : Variable) (fallback : Int) : Int :=
  ((environment.value? source).bind Integer.ofText?).getD fallback

/-- Whether a text switches a feature on: `1`, `true` or `yes` in any letter case. -/
def isSwitchedOn (text : Text) : Bool :=
  (["1", "true", "yes"] : List Text).contains (Text.lower (Text.trim text))

/-- The values in effect under an environment. -/
def inEffect (settings : Settings) (environment : Environment) : Config where
  metricsEnabled :=
    isSwitchedOn ((environment.value? .metricsEnabled).getD settings.metricsEnabled)
  limits :=
    { standard := integer environment .defaultLimit settings.defaultLimit
      least := integer environment .minLimit settings.minLimit
      most := integer environment .maxLimit settings.maxLimit }
  maxExpressionLength := integer environment .maxExpressionLength settings.maxExpressionLength

/-- The trimmed columns of a list in configuration, blank ones dropped. There is no list
unless the value is an array of texts. -/
def columns? (value : Json.Value) : Option AllowList :=
  value.texts?.map fun texts => (texts.map Text.trim).filter (· ≠ [])

/-- The override that the members of an object describe, unless they give no list. -/
def override? (members : Dictionary Json.Value) : Option Override :=
  let override : Override :=
    { fields := (members.get? "fields").bind columns?
      filter := (members.get? "filter").bind columns?
      sort := (members.get? "sort").bind columns?
      titles := none }
  if override.isUnchanged then none else some override

/-- The override that one member of the configuration object gives, under the normal form of its
name. -/
def namedOverride? : Text × Json.Value → Option (Text × Override)
  | (name, .object members) =>
    (override? (Dictionary.ofPairs members)).map fun override =>
      (Registry.normalize name, override)
  | _ => none

/-- The overrides that a JSON value describes: none unless it is an object. -/
def overridesOf : Json.Value → Dictionary Override
  | .object members =>
    Dictionary.ofPairs ((Dictionary.ofPairs members).filterMap namedOverride?)
  | _ => []

/-- The overrides that a text describes. A text that is not JSON describes none; a limit of
the reader that is exceeded is a fault. -/
def overridesOfText (room : Json.Room) (text : Text) : Except Json.Fault (Dictionary Override) :=
  if Text.trim text = [] then .ok []
  else
    match Json.ofText room (Text.trim text) with
    | .ok value => .ok (overridesOf value)
    | .error .notJson => .ok []
    | .error fault => .error fault

/-- The overrides in effect under an environment. -/
def overrides (settings : Settings) (environment : Environment) (room : Json.Room := .usual) :
    Except Json.Fault (Dictionary Override) :=
  overridesOfText room ((environment.value? .resourceColumns).getD settings.resourceColumns)

/-- The registry in effect under an environment. -/
def registry (settings : Settings) (environment : Environment) (room : Json.Room) :
    Except Json.Fault Registry :=
  (settings.overrides environment room).map Registry.ofOverrides

end Settings

end ListQuery
