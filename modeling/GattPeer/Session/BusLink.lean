import GattPeer.Session
import GattPeer.Value.Bytes
import GattPeer.Value.Key

/-!
# The link to the message bus

A transport that turns each command into one method call on the message bus, and that delivers
property changes to those who registered a match for their path. The link can be started and
stopped; a start opens a connection to the bus, and a stop forgets all matches. Tokens of matches
count up over the whole life of the link, so that a token never names two matches.

A match is entered into the table before the bus is asked for it, because property changes may
arrive before the bus answers, and it is removed again if the bus refuses.
-/

namespace GattPeer

/-- Who is told about property changes. -/
inductive Listener where
  /-- The device of the session. -/
  | device
  /-- A callback with a name, which may fail after it was told. -/
  | callback (name : String) (failure : Option Failure)

structure Match where
  /-- The token of the match. -/
  token : Nat
  /-- The path on which and below which property changes are wanted. -/
  path : String
  /-- Who is told about them. -/
  listener : Listener

inductive BusAnswer where
  /-- By the results of the method. -/
  | results (body : List Value)
  /-- By an error reply, which may lack a name. -/
  | error (name : Option String) (body : List Value)
  /-- By nothing, which counts as no results. -/
  | missing
  /-- By a failure of the bus. -/
  | failure (f : Failure)
  /-- Never. -/
  | never

structure BusReply where
  /-- The batches that the bus delivers before the answer. -/
  during : List Batch
  /-- The answer. -/
  answer : BusAnswer

/-- The link to the message bus. -/
structure BusLink where
  /-- The time limit of method calls that have none of their own. -/
  callTimeout : Value
  /-- Whether the link is running. -/
  running : Bool
  /-- Whether there is a connection to the bus. -/
  busOpen : Bool
  /-- The registered matches, in the order of their registrations. -/
  table : List Match
  /-- The token of the next match. -/
  nextToken : Nat
  /-- The replies to the next method calls. -/
  replies : List BusReply

namespace BusLink

def initial (callTimeout : Value) : BusLink :=
  { callTimeout, running := false, busOpen := false, table := [], nextToken := 1, replies := [] }

def change (f : BusLink → BusLink) : Act BusLink Unit :=
  modify fun s ↦ { s with transport := f s.transport }

def current : Act BusLink BusLink := return (← get).transport

/-! ## Delivery of property changes -/

/-- The items of a value that has items. -/
def items? : Value → Option (List Value)
  | .list items | .tuple items => some items
  | .text s => some (s.toList.map fun c ↦ .text (String.singleton c))
  | .bytes data | .buffer data => some (data.map fun b ↦ .int b.toNat)
  | .map entries | .pairs entries => some (entries.map (·.1))
  | _ => none

/-- The changed and the invalidated properties in the body of a signal; nothing if the body does not
have three items, of which the first is not looked at. -/
def parts? (body : Value) : Option (Value × Value) :=
  match items? body with
  | some [_, changed, invalidated] => some (changed, invalidated)
  | _ => none

/-- The batch that a signal on a path carries in its second and third item. -/
def batch (path : String) (changed invalidated : Value) : Except Failure Batch := do
  let changes ← match changed.entries? with
    | some entries => Value.storeEntries entries
    | none => .error (.notAMapping changed.kindName)
  match items? invalidated with
  | some names => .ok ⟨path, changes, names⟩
  | none => .error (.notIterable invalidated.kindName)

/-- Whether a message is the signal of a property change. -/
def isPropertySignal (m : Message) : Bool :=
  m.kind = .signal && m.interfaceName == some BusNames.propertiesInterface
    && m.member == some BusNames.propertiesChanged

/-- Those who are told about property changes on a path, in the order of their registrations. -/
def listeners (link : BusLink) (path : String) : List Listener :=
  (link.table.filter fun m ↦ ObjectPath.isWithin path m.path).map (·.listener)

/-- Tells a listener about a batch. A listener that fails is reported, and the others are told all
the same. -/
def tell (batch : Batch) (listener : Listener) : Act BusLink Unit := do
  let failed : Act BusLink Unit := .record (.notice .bus (.callbackFailed batch.path))
  match listener with
  | .device =>
    match ← Act.attempt (Act.deliver .bus batch) with
    | .ok _ => return
    | .error _ => failed
  | .callback name failure =>
    .record (.callback ⟨name, batch.path, batch.changes, batch.invalidated⟩)
    if failure.isSome then failed

/-- Handles a message that arrives from the bus: only signals of property changes matter, and one
that does not have three parts is reported. -/
def handle (m : Message) : Act BusLink Unit := do
  if isPropertySignal m then
    match parts? m.body with
    | none => .record (.notice .bus (.malformedSignal m.path))
    | some (changed, invalidated) =>
      let batch ← .ofExcept (batch m.path changed invalidated)
      ((← current).listeners m.path).forM (tell batch)

/-- The signal by which the bus announces a batch of the device interface. -/
def signalOf (batch : Batch) : Message :=
  { kind := .signal
    path := batch.path
    interfaceName := BusNames.propertiesInterface
    member := BusNames.propertiesChanged
    body := .list [.text BusNames.deviceInterface, .map batch.changes, .list batch.invalidated] }

/-! ## Method calls -/

def usualReply : BusReply := ⟨[], .results []⟩

def nextReply : Act BusLink BusReply := do
  let link ← current
  change fun link ↦ { link with replies := link.replies.tail }
  return link.replies.head?.getD usualReply

/-- The failure of a wait whose limit ran out; a limit of zero counts as the double zero. -/
def expired (limit : Value) : Failure :=
  match limit.number? with
  | some n => .expired (if n.equals (.int 0) then .real 0 else n)
  | none => .expired (.real 0)

/-- The failure of a wait, before it begins, whose limit is no number, is beyond what the clock can
count, or leaves no time. A wait without a limit does not fail. -/
def limitFailure? : Value → Option Failure
  | .none => none
  | limit =>
    match limit.number? with
    | none => some (.noLimit limit.kindName)
    | some n =>
      if n.exceedsClock then some .beyondClock
      else if n.isPositive then none
      else some (expired limit)

/-- The limit of a method call with a timeout, which the link has for calls without one. -/
def limitOf (link : BusLink) : Value → Value
  | .none => link.callTimeout
  | timeout => timeout

/-- The results in an answer that is waited for within a limit. -/
def results (limit : Value) : BusAnswer → Except Failure (List Value)
  | .results body => .ok body
  | .error name body => .error (.refused (name.getD "") ((body.head?.map Value.shown).getD ""))
  | .missing => .ok []
  | .failure f => .error f
  | .never => .error (expired limit)

/-- A method call that leaves the link, and is answered or not. -/
def leaving (m : MethodCall) : BusAnswer → Event
  | .never => .unanswered m
  | _ => .sent (.call m)

@[simp] theorem happening?_leaving (m : MethodCall) (answer : BusAnswer) :
    (leaving m answer).happening? = none := by
  cases answer <;> rfl

/-- Calls a method and waits for its results. A call that is never answered is not shown as sent,
but the signals that arrive meanwhile do show. -/
def call (m : MethodCall) (timeout : Value) : Act BusLink (List Value) := do
  let link ← current
  let limit := link.limitOf timeout
  .report (.calling m.interfaceName m.member m.path)
  if !link.running then throw .notStarted
  if let some failure := limitFailure? limit then
    -- The call leaves all the same, but nobody waits for its answer.
    if ObjectPath.isValid m.path then .record (.unanswered m)
    throw failure
  if !ObjectPath.isValid m.path then throw (.invalidObjectPath m.path)
  let reply ← nextReply
  .record (leaving m reply.answer)
  reply.during.forM fun batch ↦ handle (signalOf batch)
  .ofExcept (results limit reply.answer)

/-- A method of a device or an attribute. -/
def method (path interfaceName member signature : String) (body : List Value) : MethodCall :=
  { destination := BusNames.bluez, path, interfaceName, member, signature, body }

/-- A method of the bus itself that takes a match rule. -/
def ruleMethod (member path : String) : MethodCall :=
  { destination := BusNames.bus, path := BusNames.busPath, interfaceName := BusNames.bus, member,
    signature := "s", body := [.text (BusNames.matchRule path)] }

def connect (path : String) (timeout : Value) : Act BusLink Unit :=
  discard <| call (method path BusNames.deviceInterface "Connect" "" []) timeout

def disconnect (path : String) (timeout : Value) : Act BusLink Unit :=
  discard <| call (method path BusNames.deviceInterface "Disconnect" "" []) timeout

def readValue (path : String) (timeout : Value) : Act BusLink (List UInt8) := do
  let m := method path BusNames.characteristicInterface "ReadValue" "a\x7bsv\x7d" [.map []]
  match ← call m timeout with
  | [] => return []
  | value :: _ => .ofExcept (value.toBytes (← get).config.memory)

def writeValue (path : String) (data : List UInt8) (timeout : Value) : Act BusLink Unit :=
  discard <| call (method path BusNames.characteristicInterface "WriteValue" "aya\x7bsv\x7d"
    [.bytes data, .map []]) timeout

/-! ## Matches -/

def forget (token : Nat) (link : BusLink) : BusLink :=
  { link with table := link.table.filter (·.token ≠ token) }

/-- Registers a match and answers its token. -/
def addMatch (path : String) (listener : Listener) : Act BusLink Nat := do
  let token := (← current).nextToken
  -- The match stands in the table before the bus is asked: signals may come before its answer.
  change fun link ↦
    { link with nextToken := token + 1, table := link.table ++ [⟨token, path, listener⟩] }
  match ← Act.attempt (call (ruleMethod "AddMatch" path) .none) with
  | .error failure =>
    change (forget token)
    throw failure
  | .ok _ =>
    .report (.matchAdded path token)
    return token

/-- Removes a match, if there is one with the token; a token that cannot be a key is refused. The
bus is told only while the link runs. -/
def removeMatch (token : Value) : Act BusLink Unit := do
  let link ← current
  -- Nothing is looked for in an empty table, whatever the token.
  if !link.table.isEmpty then .ofExcept token.checkKey
  match link.table.find? fun m ↦ token.equal (.int m.token) with
  | none => return
  | some m =>
    -- The match is gone even if the bus refuses.
    change (forget m.token)
    if link.running then
      discard <| call (ruleMethod "RemoveMatch" m.path) .none
      .report (.matchRemoved m.path)

/-! ## Life cycle -/

/-- Stops the link, if it is running, and forgets all matches. -/
def stop : Act BusLink Unit := do
  let link ← current
  change fun link ↦ { link with running := false, busOpen := false, table := [] }
  if link.running then
    if link.busOpen then .record (.sent .busClosed)
    .report .busLeft

/-- Starts the link, if it is not running, on a platform that may lack the bus, where the connection
to the bus may fail, or may not come about in time. -/
def start (hasBus : Bool) (refusal : Option Failure) : Act BusLink Unit := do
  let link ← current
  if !link.running then
    if !hasBus then throw .wrongPlatform
    change fun link ↦ { link with running := true }
    -- From here on a failure leaves through `stop`, so that nothing stays half open.
    if let some failure := limitFailure? link.callTimeout then
      stop
      throw failure
    .record (.sent .busOpened)
    match refusal with
    | some failure =>
      stop
      throw failure
    | none =>
      .record (.sent .handlerInstalled)
      change fun link ↦ { link with busOpen := true }
      .report .busReached

/-! ## Commands -/

def perform : Command → Act BusLink Value
  | .connect path timeout => do connect path timeout; return .none
  | .disconnect path timeout => do disconnect path timeout; return .none
  | .readValue path timeout => return .bytes (← readValue path timeout)
  | .writeValue path data timeout => do writeValue path data timeout; return .none
  | .addMatch path => return .int (← addMatch path .device)
  | .removeMatch token => do removeMatch token; return .none

instance : Transport BusLink BusReply where
  load replies link := { link with replies := replies }
  perform := perform

end BusLink

end GattPeer
