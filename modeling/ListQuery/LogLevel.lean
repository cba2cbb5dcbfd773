import ListQuery.Text.Blank
import ListQuery.Text.Case

/-!
# Log levels

The level from which on records are kept. A level is configured by its name in any letter case.
A name that means nothing stands for the informational level, except for two that the logging
facility keeps for its own formats and refuses as levels.
-/

namespace ListQuery

namespace LogLevel

/-- Why a name is refused as a level. -/
inductive Fault where
  | formatText
  | styleTable
deriving Repr, DecidableEq

/-- The levels with their names. -/
def named : List (Text × Nat) :=
  [("CRITICAL", 50), ("FATAL", 50), ("ERROR", 40), ("WARNING", 30),
    ("WARN", 30), ("INFO", 20), ("DEBUG", 10), ("NOTSET", 0)]

/-- The level of records that tell of normal events. -/
def informational : Nat := 20

/-- The level that a configured text stands for. -/
def ofText (text : Text) : Except Fault Nat :=
  let name := Text.upper (Text.trim text)
  if name = "BASIC_FORMAT" then .error .formatText
  else if name = "_STYLES" then .error .styleTable
  else .ok ((named.lookup name).getD informational)

end LogLevel

end ListQuery
