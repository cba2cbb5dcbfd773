import ListQuery.Service.Message
import ListQuery.Settings

/-!
# Processes

What a running service does step by step, and what its process fixes once when it starts: the values
to fall back on, which are read from the variables of that moment, and two things that the program
does not decide, how much room a step leaves on the call stack for reading a configuration, and in
which order a refusal lists the methods of a page.
-/

namespace ListQuery.Service

/-- A step of a session. -/
inductive Step where
  | setVariable (name value : Text)
  | unsetVariable (name : Text)
  | resetRegistry
  | settings
  | registry (names : List Text)
  | parseLimit (raw : Option Text)
  | listQuery (resource : Text) (query : Query)
  | metrics
  | request (request : Request)
deriving Repr, DecidableEq

/-- What a process fixes when it starts. -/
structure Process where
  settings : Settings
  room : Step → Json.Room
  pageMethods : Text

namespace Process

/-- The room that a step usually leaves: a request is handled one call further down than other steps
are. -/
def usualRoom : Step → Json.Room
  | .request _ => .upTo 989
  | _ => .usual

/-- A process that starts without configuration. -/
def standard : Process :=
  ⟨.standard, usualRoom, Text.join ", " Framework.plainMethods⟩

end Process

end ListQuery.Service
