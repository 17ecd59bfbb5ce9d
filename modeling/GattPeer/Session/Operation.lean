import GattPeer.Session
import GattPeer.Value.Bytes
import GattPeer.Value.Numeric

/-!
# Operations on a device

What a caller can do with a device over any transport: read and write attributes, listen for
property changes, and connect and discover, which may wait.
-/

namespace GattPeer.Session

variable {τ ρ : Type} [Transport τ ρ]

/-! ## Attributes -/

def readValue (c : Characteristic) : Act τ Value := do
  let s ← get
  match s.device.attributes.pathOf? c.value with
  | none => throw (.notSupported "read")
  | some path => Transport.perform (.readValue path s.config.methodCallTimeout)

/-- Writes the value of an attribute. The attribute is looked for before the data is looked at. -/
def writeValue (c : Characteristic) (data : Value) : Act τ Unit := do
  let s ← get
  match s.device.attributes.pathOf? c.value with
  | none => throw (.notSupported "write_without_response")
  | some path =>
    let bytes ← .ofExcept (data.toBytes s.config.memory)
    discard <| Transport.perform (.writeValue path bytes s.config.methodCallTimeout)

def exchangeValue (c : Characteristic) (data : Value) : Act τ Value := do
  writeValue c data
  readValue c

/-- Reads the first announced attribute of a type in the range of another. -/
def readByType (c : Characteristic) (uuid : String) : Act τ Value := do
  match ← .ofExcept ((← get).device.attributes.find? uuid c.start c.stop) with
  | none => throw (.notSupported "read_by_type")
  | some found => readValue found

/-! ## Property changes -/

/-- Listens for property changes, unless the device listens already. An absent token means that the
device does not listen. -/
def listen : Act τ Unit := do
  let s ← get
  if s.token.isNone then
    let token ← Transport.perform (.addMatch s.device.path)
    modify fun s ↦ { s with token := match token with
      | .none => none
      | token => some token }
    .report (.listening s.device.address)

/-- Listens no longer. The token is given up before the transport is asked. -/
def stopListening : Act τ Unit := do
  let s ← get
  match s.token with
  | none => return
  | some token =>
    set { s with token := none }
    discard <| Transport.perform (.removeMatch token)
    .report (.stoppedListening s.device.address)

/-! ## The connection -/

def disconnect : Act τ Unit := do
  let s ← get
  .report (.disconnecting s.device.address)
  discard <| Transport.perform (.disconnect s.device.path s.config.methodCallTimeout)

/-- What an answer to a request to connect leaves to wait for, within a budget of which some time
is over: a connection, or nothing if there is one already. -/
def connectAnswer (owner : String) (budget : Value) (elapsed : Number) :
    Except Failure Value → Act τ (Option Purpose)
  | .ok _ => some <$> .ofExcept remaining
  | .error (.refused name message) => do
    if name.isText BusNames.alreadyConnected then
      .report (.alreadyConnected owner)
      return none
    else if name.isText BusNames.failed then
      .report (.connectFailed owner message.shown)
      throw (.notConnected
        (owner ++ ": " ++ if message.isTrue then message.shown else "connect failed"))
    else throw (.refused name message)
  | .error (.timedOut _) => throw exceeded
  | .error failure => throw failure
where
  /-- What is left to wait for. A budget that is no number, or too large for a double, leaves
  nothing that could be waited for. -/
  remaining : Except Failure Purpose :=
    match budget.number? with
    | none => .error (.noBudget budget.kindName)
    | some n =>
      if n.hasDouble then .ok (.connect n (n.leftAfter elapsed)) else .error .numberTooLarge
  /-- The failure when the request ran out of time. -/
  exceeded : Failure :=
    match budget.toNumber with
    | .ok n => .expired n
    | .error failure => failure

/-- The part of a call to connect before its wait, which takes some seconds. -/
def requestConnection (elapsed : Number) : Act τ (Option Purpose) := do
  let s ← get
  let budget := s.config.connectTimeout
  .report (.connecting s.device.address)
  let answer ← Act.attempt (Transport.perform (.connect s.device.path budget))
  connectAnswer s.device.address budget elapsed answer

/-- The part of a call to discover before its wait. -/
def requestServices (first last : Int) : Act τ (Option Purpose) := do
  .report (.waitingForServices (← get).device.address)
  return some (.discover first last)

/-! ## Calls that may wait -/

/-- The notices of the caller in a trace. -/
def callerNotices (trace : List Event) : List Notice :=
  trace.filterMap fun
    | .notice .caller n => some n
    | _ => none

/-- What happened in a trace beside the notices of the caller. -/
def withoutCaller (trace : List Event) : List Event :=
  trace.filter fun
    | .notice .caller _ => false
    | _ => true

/-- Starts to wait for what a call is for, if there is time. -/
def await (s : Session τ) (call : Call) : Session τ :=
  match s.device.monitor.await ⟨call.purpose.condition, call⟩ with
  | (_, some woken) => s.conclude (s.device.finish woken)
  | (monitor, none) =>
    if call.purpose.isOver then s.conclude (s.device.expire call)
    else if call.purpose.exceedsClock then
      s.conclude ⟨call.id, .error .beyondClock, call.journal⟩
    else { s with device := { s.device with monitor := monitor } }

/-- Starts a call: carries out its first part and then, unless nothing is left to wait for, waits.
The notices of the caller go to the call; answers the number of the call. -/
def spawn (request : Act τ (Option Purpose)) : Act τ Nat := do
  let s ← get
  let before := s.trace
  -- The first part runs on an empty trace, from which the notices of the caller are taken.
  set { s with nextCall := s.nextCall + 1, trace := [] }
  let outcome ← Act.attempt request
  let during := (← get).trace
  let journal := callerNotices during
  modify fun s ↦ { s with trace := before ++ withoutCaller during }
  match outcome with
  | .error failure => modify fun s' ↦ s'.conclude ⟨s.nextCall, .error failure, journal⟩
  | .ok none => modify fun s' ↦ s'.conclude ⟨s.nextCall, .ok .nothing, journal⟩
  | .ok (some purpose) => modify fun s' ↦ s'.await ⟨s.nextCall, purpose, journal⟩
  return s.nextCall

/-- Starts a call to connect, of whose budget some seconds are over when its wait begins. -/
def connect (elapsed : Number) : Act τ Nat := spawn (requestConnection elapsed)

/-- Starts a call to find the characteristics with handles from `first` to `last`. -/
def discover (first last : Int) : Act τ Nat := spawn (requestServices first last)

def reachDeadline (id : Nat) : Act τ Unit :=
  modify fun s ↦
    let (device, course) := s.device.reachDeadline id
    { s with device := device, trace := s.trace ++ course.map Event.happening }

/-! ## Descriptions -/

/-- The device in a few words: address, name, and whether it is connected. -/
def title (s : Session τ) : String :=
  let name := s.device.advertisement.localName.getD ""
  s.device.address ++ " " ++ (if name.isEmpty then "(unknown)" else name)
    ++ (if s.device.state.isConnected then " connected" else "")

/-- The device with all that is known about it. -/
def description (s : Session τ) : String :=
  "<Peripheral " ++ s.device.address ++ " state=" ++ s.device.state.name ++ " properties="
    ++ s.device.advertisement.text ++ " characteristics=" ++ s.device.characteristics.length.repr
    ++ ">"

end GattPeer.Session
