import GattPeer.Session.BusLink
import GattPeer.Session.DirectSink
import GattPeer.Session.Operation

/-!
# Steps of a session

A session is driven by steps. Each step is an operation on the device or on the link to the bus,
with a script of the replies that its surroundings give meanwhile; unused replies are dropped. A
report tells how a step ended and what happened in it.
-/

namespace GattPeer.Session

/-! ## Operations on the device -/

inductive Step where
  | address
  | path
  | state
  | isConnected
  | title
  | description
  | advertisement
  | characteristics
  | listen
  | stopListening
  | disconnect
  | receive (batch : Batch)
  | announce (path uuid : String) (flags : PropertyFlags)
  | read (c : Characteristic)
  | write (c : Characteristic) (data : Value)
  | exchange (c : Characteristic) (data : Value)
  /-- Reads the first attribute of a type in a range. -/
  | readByType (c : Characteristic) (uuid : String)
  /-- An operation that is not offered. -/
  | unavailable (name : String)
  /-- An operation whose arguments are no good. -/
  | rejected (failure : Failure)
  /-- Connects, which takes some seconds before the wait for the connection begins. -/
  | connect (elapsed : Number)
  | discover (first last : Int)

section

variable {τ ρ : Type} [Transport τ ρ]

def announce (path uuid : String) (flags : PropertyFlags) : Act τ Unit := do
  let s ← get
  let (device, notices, outcome) := s.device.announce path uuid flags
  let stored := outcome.toOption.toList.map Happening.announced
  set { s with
    device := device
    trace := s.trace ++ notices.map (Event.notice .caller) ++ stored.map Event.happening }
  discard <| .ofExcept outcome

def carryOut : Step → Act τ Reading
  | .address => return .text (← get).device.address
  | .path => return .text (← get).device.path
  | .state => return .state (← get).device.state
  | .isConnected => return .truth (← get).device.state.isConnected
  | .title => return .text (← get).title
  | .description => return .text (← get).description
  | .advertisement => return .advertisement (← get).device.advertisement
  | .characteristics => return .characteristics (← get).device.characteristics
  | .listen => do listen; return .nothing
  | .stopListening => do stopListening; return .nothing
  | .disconnect => do disconnect; return .nothing
  | .receive batch => do Act.deliver .caller batch; return .nothing
  | .announce path uuid flags => do announce path uuid flags; return .nothing
  | .read c => return .value (← readValue c)
  | .write c data => do writeValue c data; return .nothing
  | .exchange c data => return .value (← exchangeValue c data)
  | .readByType c uuid => return .value (← readByType c uuid)
  | .unavailable name => throw (.notImplemented name)
  | .rejected failure => throw failure
  | .connect elapsed => return .number (← connect elapsed)
  | .discover first last => return .number (← discover first last)

end

/-! ## Operations on the link to the bus -/

inductive LinkStep where
  | start (hasBus : Bool) (refusal : Option Failure)
  /-- Starts the link for a block of operations, and answers that it is the link itself. -/
  | enter (hasBus : Bool) (refusal : Option Failure)
  | stop
  | isRunning
  | connect (path : String) (timeout : Value)
  | disconnect (path : String) (timeout : Value)
  | readValue (path : String) (timeout : Value)
  | writeValue (path : String) (data : Value) (timeout : Value)
  /-- Registers a callback, which may fail after it was told. -/
  | addMatch (path name : String) (failure : Option Failure)
  | removeMatch (token : Value)
  | message (m : Message)

def carryOutLink : LinkStep → Act BusLink Reading
  | .start hasBus refusal => do BusLink.start hasBus refusal; return .nothing
  | .enter hasBus refusal => do BusLink.start hasBus refusal; return .truth true
  | .stop => do BusLink.stop; return .nothing
  | .isRunning => return .truth (← BusLink.current).running
  | .connect path timeout => do BusLink.connect path timeout; return .nothing
  | .disconnect path timeout => do BusLink.disconnect path timeout; return .nothing
  | .readValue path timeout => return .value (.bytes (← BusLink.readValue path timeout))
  | .writeValue path data timeout => do
    let bytes ← .ofExcept (data.toBytes (← get).config.memory)
    BusLink.writeValue path bytes timeout
    return .nothing
  | .addMatch path name failure => return .number (← BusLink.addMatch path (.callback name failure))
  | .removeMatch token => do BusLink.removeMatch token; return .nothing
  | .message m => do BusLink.handle m; return .nothing

/-! ## Reports -/

/-- How a step ended and what happened in it. -/
structure Report where
  /-- How it ended. -/
  outcome : Except Failure Reading
  /-- What happened, in the order of time. -/
  trace : List Event
  /-- The connection state after the step. -/
  state : ConnectionState

namespace Report

/-- The notices that belong to no call. -/
def notices (r : Report) : List Notice :=
  r.trace.filterMap fun
    | .notice _ n => some n
    | _ => none

def sent (r : Report) : List Sent :=
  r.trace.filterMap fun
    | .sent s => some s
    | _ => none

def callbacks (r : Report) : List CallbackRun :=
  r.trace.filterMap fun
    | .callback c => some c
    | _ => none

def happenings (r : Report) : List Happening := r.trace.filterMap Event.happening?

/-- The calls that ended, in the order of their numbers. -/
def ended (r : Report) : List EndedCall :=
  (r.happenings.filterMap fun
    | .ended e => some e
    | _ => none).mergeSort fun a b ↦ a.id ≤ b.id

end Report

/-- Carries out an operation, with a script of replies. -/
def perform {τ ρ : Type} [Transport τ ρ] (s : Session τ) (replies : List ρ) (act : Act τ Reading) :
    Session τ × Report :=
  match act { s with transport := Transport.load replies s.transport, trace := [] } with
  | .ok reading s => (s, ⟨.ok reading, s.trace, s.device.state⟩)
  | .error failure s => (s, ⟨.error failure, s.trace, s.device.state⟩)

/-- The numbers of the calls that wait. -/
def waitingCalls {τ : Type} (s : Session τ) : List Nat := s.device.monitor.waiting.map (·.tag.id)

end GattPeer.Session
