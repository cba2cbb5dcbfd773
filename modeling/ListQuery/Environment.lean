import ListQuery.Text.Escaped

/-!
# Environments

The variables that configure the service while it runs. A variable that no setting reads is
not kept, but its name and value must be well formed like any other's. Names and values are kept as
bytes, so a value is read back as its bytes are.
-/

namespace ListQuery

/-- The variables that settings read. -/
inductive Variable where
  | metricsEnabled
  | defaultLimit
  | minLimit
  | maxLimit
  | maxExpressionLength
  | resourceColumns
deriving Repr, DecidableEq

namespace Variable

/-- All variables. -/
def all : List Variable :=
  [metricsEnabled, defaultLimit, minLimit, maxLimit, maxExpressionLength, resourceColumns]

/-- The name of a variable. -/
def name : Variable → Text
  | metricsEnabled => "LISTQ_METRICS_ENABLED"
  | defaultLimit => "LISTQ_DEFAULT_LIMIT"
  | minLimit => "LISTQ_MIN_LIMIT"
  | maxLimit => "LISTQ_MAX_LIMIT"
  | maxExpressionLength => "LISTQ_MAX_EXPRESSION_LENGTH"
  | resourceColumns => "LISTQ_RESOURCE_COLUMNS"

/-- The variable with a given name. -/
def ofName? (text : Text) : Option Variable :=
  all.find? (·.name = text)

end Variable

/-- The value of each variable that is set. -/
structure Environment where
  value? : Variable → Option Text

namespace Environment

/-- The environment in which no variable is set. -/
def empty : Environment := ⟨fun _ => none⟩

/-- The environment with one variable changed. -/
def update (environment : Environment) (changed : Variable) (value : Option Text) :
    Environment :=
  ⟨fun other => if other = changed then value else environment.value? other⟩

/-- The environment with the variable of a name set, if there is such a variable. -/
def set (environment : Environment) (name value : Text) : Environment :=
  match Variable.ofName? name with
  | some known => environment.update known (some value)
  | none => environment

/-- The environment with the variable of a name removed, if there is such a variable. -/
def unset (environment : Environment) (name : Text) : Environment :=
  match Variable.ofName? name with
  | some known => environment.update known none
  | none => environment

/-- Why a variable cannot be set. -/
inductive Fault where
  | malformed
  | nameless
deriving Repr, DecidableEq

/-- The environment with a variable set. Its name and value must have bytes, neither of them can
hold the null character, and the name can neither hold an equals sign nor be empty. -/
def store (environment : Environment) (name value : Text) : Except Fault Environment :=
  if ! name.hasBytes || ! value.hasBytes || name.contains '\x00' || name.contains '=' ||
      value.contains '\x00' then .error .malformed
  else if name = [] then .error .nameless
  else .ok (environment.set name value.readBack)

/-- The environment with some variables set one after the other. -/
def ofPairs (pairs : List (Text × Text)) : Except Fault Environment :=
  pairs.foldlM (fun environment (name, value) => environment.store name value) empty

end Environment

end ListQuery
