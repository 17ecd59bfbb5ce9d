import GattPeer.Advertisement
import GattPeer.Characteristic
import GattPeer.StateMonitor

/-!
# Calls

Connecting and discovering are calls that may wait for the connection state. A call keeps the
notices that it makes, which become known when it ends.

To connect takes time before the wait begins, which counts against the budget of the call. So the
wait has a limit of its own, which is what is left of the budget then.
-/

namespace GattPeer

/-- What an operation on a device gives. -/
inductive Reading where
  | nothing
  | value (v : Value)
  | truth (b : Bool)
  | text (s : String)
  /-- A number: of a call, or of a match. -/
  | number (n : Nat)
  | state (s : ConnectionState)
  | advertisement (a : Advertisement)
  | characteristics (cs : List Characteristic)

/-- What a call is for. -/
inductive Purpose where
  /-- To connect within a time budget, of which something is left when the wait begins. -/
  | connect (budget : Number) (left : Number.Exact)
  /-- To find the characteristics with handles from `first` to `last`. -/
  | discover (first last : Int)
  deriving DecidableEq, Repr

/-- What a call waits for: to connect is to wait until there is a connection, to discover is to wait
while there is one without known services. -/
def Purpose.condition : Purpose → Condition
  | .connect .. => .comparing .atLeast .connected
  | .discover .. => .comparing .other .connected

/-- Whether a call has no time left to wait. -/
def Purpose.isOver : Purpose → Bool
  | .connect _ left => left.isSpent
  | .discover .. => false

/-- Whether the end of a wait lies beyond what the clock can count. -/
def Purpose.exceedsClock : Purpose → Bool
  | .connect _ left => left.exceedsClock
  | .discover .. => false

/-- Whether a wait has an end. One does not end whose limit is not a number. -/
def Purpose.hasDeadline : Purpose → Bool
  | .connect _ left => left ≠ .undefined
  | .discover .. => false

/-- A call that waits. -/
structure Call where
  /-- The number of the call. -/
  id : Nat
  /-- What it is for. -/
  purpose : Purpose
  /-- The notices that it made. -/
  journal : List Notice

/-- Whether the deadline of a number is that of a call. -/
def Call.endsAt (c : Call) (id : Nat) : Bool := c.id = id && c.purpose.hasDeadline

structure EndedCall where
  /-- The number of the call. -/
  id : Nat
  /-- How it ended. -/
  outcome : Except Failure Reading
  /-- The notices that it made. -/
  journal : List Notice

end GattPeer
