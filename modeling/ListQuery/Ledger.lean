import ListQuery.Framework
import ListQuery.Refusal

/-!
# Ledgers

The ledger of a run holds one entry for every counted event, so that a counter is the number of
equal entries. `lines` writes the counters in the text form that collectors read.
-/

namespace ListQuery

/-- A counted event: a parameter that was accepted or refused for a reason, a request with the
status of its answer, or the timing of a request. -/
inductive Event where
  | validation (parameter : Parameter) (refused : Option Refusal.Reason)
  | request (method path : Text) (status : Nat)
  | timing (method path : Text)
deriving Repr, DecidableEq

namespace Event

/-- The name of the counter that counts an event. -/
def counter : Event → Text
  | validation .. => "list_query_validations_total"
  | request .. => "http_requests_total"
  | timing .. => "http_request_duration_seconds_count"

/-- The labels of an event in alphabetical order. -/
def labels : Event → List (Text × Text)
  | validation parameter refused =>
    [("outcome", if refused.isNone then "accepted" else "rejected"),
      ("parameter", parameter.name),
      ("reason", (refused.map Refusal.Reason.name).getD [])]
  | request method path status =>
    [("method", method), ("path", path), ("status", Text.ofNat status)]
  | timing method path => [("method", method), ("path", path)]

/-- The line of the counter that counts an event. -/
def line (event : Event) (count : Nat) : Text :=
  Framework.counterLine event.counter event.labels count

end Event

/-- The counted events of a run in order. -/
structure Ledger where
  events : List Event
deriving Repr, DecidableEq

namespace Ledger

/-- The ledger without events. -/
def empty : Ledger := ⟨[]⟩

/-- The ledger with more events. -/
def record (ledger : Ledger) (events : List Event) : Ledger :=
  ⟨ledger.events ++ events⟩

@[simp] theorem record_nil (ledger : Ledger) : ledger.record [] = ledger := by
  simp [record]

theorem record_append (ledger : Ledger) (front back : List Event) :
    ledger.record (front ++ back) = (ledger.record front).record back := by
  simp [record]

/-- How often an event was counted. -/
def count (ledger : Ledger) (event : Event) : Nat :=
  ledger.events.count event

/-- The lines of all counters in code point order. -/
def lines (ledger : Ledger) : List Text :=
  Text.sortedDistinct (ledger.events.map fun event => event.line (ledger.count event))

end Ledger

end ListQuery
