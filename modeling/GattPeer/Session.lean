import GattPeer.Command
import GattPeer.Config
import GattPeer.Device
import GattPeer.DeviceAddress

/-!
# Sessions

A device with its settings, its subscription and its transport. Operations on a session are actions:
they change the session and answer, or fail with the changes made so far. What happens meanwhile is
recorded in the order of time, as the trace of the session.

A session has two authors of notices. The caller of an operation is one; the bus, which delivers
property changes on its own, is the other. A call that waits keeps the notices of its own caller.
-/

namespace GattPeer

/-- Who makes a notice. -/
inductive Author where
  | caller
  | bus
  deriving DecidableEq, Repr

/-- A callback that ran: its name and what it was called with. -/
structure CallbackRun where
  /-- The name of the callback. -/
  name : String
  /-- The path on which properties changed. -/
  path : String
  /-- The properties that have new values. -/
  changes : Changes
  /-- The properties that lost their values. -/
  invalidated : List Value

/-- Something that happens in a session. -/
inductive Event where
  /-- A notice is made. -/
  | notice (author : Author) (n : Notice)
  /-- Something leaves the transport. -/
  | sent (s : Sent)
  /-- A method call leaves the transport that nobody answers in time. -/
  | unanswered (m : MethodCall)
  /-- A callback runs. -/
  | callback (c : CallbackRun)
  /-- Something happens to the device. -/
  | happening (h : Happening)

/-- What an event means for the device, if anything. -/
def Event.happening? : Event → Option Happening
  | .happening h => some h
  | _ => none

/-- A device with its settings, its subscription and its transport. -/
structure Session (τ : Type) where
  /-- The settings. -/
  config : Setup
  /-- The device. -/
  device : Device
  /-- The token of the subscription, while the device listens. -/
  token : Option Value
  /-- The transport. -/
  transport : τ
  /-- The number of the next call. -/
  nextCall : Nat
  /-- What happened, in the order of time. -/
  trace : List Event

/-- An operation on a session. -/
abbrev Act (τ : Type) := EStateM Failure (Session τ)

/-- A transport: how it carries out commands. Its surroundings answer from a script of replies of
type `ρ`, which is loaded before each operation. -/
class Transport (τ : Type) (ρ : outParam Type) where
  /-- Replaces the script. -/
  load : List ρ → τ → τ
  /-- Carries out a command. -/
  perform : Command → Act τ Value

namespace Act

variable {τ : Type}

def record (e : Event) : Act τ Unit := modify fun s ↦ { s with trace := s.trace ++ [e] }

/-- Makes a notice of the caller. -/
def report (n : Notice) : Act τ Unit := record (.notice .caller n)

/-- Fails if a computation did. -/
def ofExcept {α : Type} : Except Failure α → Act τ α
  | .ok a => pure a
  | .error failure => throw failure

/-- Carries out an action and answers whether it failed, with the changes that it made. -/
def attempt {α : Type} (act : Act τ α) : Act τ (Except Failure α) := fun s ↦
  match act s with
  | .ok a s => .ok (.ok a) s
  | .error failure s => .ok (.error failure) s

/-- The device receives a batch, and its notices have an author. -/
def deliver (author : Author) (batch : Batch) : Act τ Unit := do
  let s ← get
  let (device, effects) ← ofExcept (s.device.receive batch)
  set { s with
    device := device
    trace := s.trace ++ effects.notices.map (Event.notice author)
      ++ effects.course.map Event.happening }

end Act

namespace Session

variable {τ : Type}

/-- A session at its beginning. Without a path, the path follows from the address. The address is
kept in upper case. -/
def start (transport : τ) (path : Option String) (address : String) (config : Setup) : Session τ :=
  { config
    device := .initial (path.getD (DeviceAddress.toPath address config.adapter.shown))
      (Text.upper address) .notConnected
    token := none
    transport
    nextCall := 0
    trace := [] }

def happenings (s : Session τ) : List Happening := s.trace.filterMap Event.happening?

def conclude (s : Session τ) (e : EndedCall) : Session τ :=
  { s with trace := s.trace ++ [.happening (.ended e)] }

end Session

end GattPeer
