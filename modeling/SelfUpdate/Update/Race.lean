/-!
# A transfer that can be cancelled

A transfer and the signal that cancels it are looked at in turns: in each turn
first at the signal, and only if it has not fired at the transfer. The transfer
begins when it is first looked at.
-/

namespace SelfUpdate

/-- How a race between a signal and a transfer ended, unless neither ever comes. -/
inductive RaceOutcome (α : Type) where
  | cancelled
  | finished (value : α)
  | endless
  deriving DecidableEq, Repr

/-- A signal, by the first turn in which it is seen, if ever. -/
abbrev Signal := Option Nat

/-- A transfer, by the turn in which it completes, if ever, and what it brings. -/
abbrev Transfer (α : Type) := Option (Nat × α)

/-- The outcome of a race. In the turn in which both come, the signal counts. -/
def race {α : Type} (signal : Signal) (transfer : Transfer α) : RaceOutcome α :=
  match signal, transfer with
  | some fired, some (completed, value) =>
      if fired ≤ completed then .cancelled else .finished value
  | some _, none => .cancelled
  | none, some (_, value) => .finished value
  | none, none => .endless

/-- Whether the transfer begins at all: a signal seen in the first turn prevents it. -/
def transferBegins (signal : Signal) : Bool :=
  signal != some 0

end SelfUpdate
