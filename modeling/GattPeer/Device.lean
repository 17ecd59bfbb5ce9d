import GattPeer.AttributeTable
import GattPeer.Happening

/-!
# Devices

What is known about a remote device: its advertised properties, its attributes, the state of the
connection to it, and the calls that wait for that state. The device changes by announcements of
attributes and by batches of property changes. A batch for another device or for an attribute is
only reported. A batch for the device itself is merged into the properties; then its connection
property and its resolution property drive the connection state, each with one notification. When
the services are resolved, the ranges are published before anyone is notified, so that whoever sees
the new state sees the new ranges.
-/

namespace GattPeer

/-- A batch of property changes on a path. -/
structure Batch where
  /-- The path of the object whose properties changed. -/
  path : String
  /-- The properties that have new values. -/
  changes : Changes
  /-- The properties that lost their values. -/
  invalidated : List Value

/-- What is known about a remote device. -/
structure Device where
  /-- The object path of the device. -/
  path : String
  /-- Its advertised properties. -/
  advertisement : Advertisement
  /-- The connection state, and the calls that wait for it. -/
  monitor : StateMonitor Call
  /-- Its attributes. -/
  attributes : AttributeTable

/-- What came of a change of a device. -/
structure Effects where
  /-- The notices, in their order. -/
  notices : List Notice
  /-- What happened to the device, in its order. -/
  course : List Happening

namespace Device

/-- A device of which nothing is known but its path and address. -/
def initial (path address : String) (state : ConnectionState) : Device :=
  { path, advertisement := .initial address, monitor := .start address state,
    attributes := .empty address }

def address (d : Device) : String := d.advertisement.address

def state (d : Device) : ConnectionState := d.monitor.state

def characteristics (d : Device) : List Characteristic := d.attributes.published

/-! ## Calls -/

/-- The characteristics with value handles from `first` to `last`. -/
def characteristicsIn (d : Device) (first last : Int) : List Characteristic :=
  d.characteristics.filter fun c ↦ first ≤ c.value && c.value ≤ last

/-- What a call comes to in a state that it waited for, and the notice that it makes then. -/
def result (d : Device) (purpose : Purpose) (state : ConnectionState) :
    Except Failure Reading × List Notice :=
  match purpose with
  | .connect .. => (.ok .nothing, [.connected d.address])
  | .discover first last =>
    if state = .notConnected then (.error (.notConnected (d.address ++ ": not connected")), [])
    else (.ok (.characteristics (d.characteristicsIn first last)), [.servicesResolved d.address])

/-- The end of a call whose wait ended. -/
def finish (d : Device) (w : Woken Call) : EndedCall :=
  match w.outcome with
  | .error failure => ⟨w.tag.id, .error failure, w.tag.journal⟩
  | .ok state =>
    let (outcome, notices) := d.result w.tag.purpose state
    ⟨w.tag.id, outcome, w.tag.journal ++ notices⟩

/-- The end of a call that ran out of time. -/
def expire (d : Device) (call : Call) : EndedCall :=
  match call.purpose with
  | .connect budget _ =>
    ⟨call.id, .error (.expired budget),
      call.journal ++ [.notConnectedAfter d.address budget d.state]⟩
  | .discover .. => ⟨call.id, .ok .nothing, call.journal⟩

/-- The end of a call at its deadline, when it looks at the state once more. -/
def lastLook (d : Device) (w : Waiter Call) : EndedCall :=
  match w.react d.state with
  | some woken => d.finish woken
  | none => d.expire w.tag

/-- The deadline of a call: it ends if it still waits, and nobody else is concerned. -/
def reachDeadline (d : Device) (id : Nat) : Device × List Happening :=
  let (late, others) := d.monitor.waiting.partition fun w ↦ w.tag.endsAt id
  ({ d with monitor := { d.monitor with waiting := others } },
    late.map fun w ↦ .ended (d.lastLook w))

/-- A transition of the connection state upon some news, which ends the calls that waited for it. -/
def transition (d : Device) (news : News) (states : List ConnectionState) : Device × Effects :=
  let (monitor, notices, woken) := d.monitor.transition states
  ({ d with monitor := monitor },
    ⟨notices, .notified news monitor.state :: woken.map fun w ↦ .ended (d.finish w)⟩)

/-! ## Announcements -/

def announce (d : Device) (path uuid : String) (flags : PropertyFlags) :
    Device × List Notice × Except Failure Announcement :=
  let (attributes, notices, outcome) := d.attributes.announce path uuid flags
  ({ d with attributes := attributes }, notices, outcome)

/-! ## Property changes -/

/-- The connection property has a new value. A connection that exists is not touched by the news
that it exists. -/
def connectionChanged (d : Device) (value : Bool) : Device × Effects :=
  let states : List ConnectionState :=
    if !value then [.notConnected] else if d.state = .notConnected then [.connected] else []
  let (d, effects) := d.transition (.connection value) states
  (d, { effects with notices := .connectedProperty d.address value :: effects.notices })

/-- The resolution property has a new value. Only the news that the services are resolved matters.
-/
def resolutionChanged (d : Device) (value : Bool) : Device × Effects :=
  let report := Notice.resolvedProperty d.address value
  if value then
    -- Published before the transition: its notification is the first thing that anyone sees.
    let (attributes, published) := d.attributes.publish
    let (d, effects) :=
      { d with attributes := attributes }.transition (.resolution value) [.servicesResolved]
    (d, { effects with notices := report :: published ++ effects.notices })
  else
    let (d, effects) := d.transition (.resolution value) []
    (d, { effects with notices := report :: effects.notices })

/-- Follows a property that is read as a truth value; a value of the wrong shape is reported. -/
def follow (d : Device) (value : Option Value) (report : Value → Notice)
    (change : Device → Bool → Device × Effects) : Device × Effects :=
  match value with
  | none => (d, ⟨[], []⟩)
  | some value =>
    match Decode.truth? value with
    | none => (d, ⟨[report value], []⟩)
    | some b => change d b

/-- Merges a batch of changes of the device itself. -/
def update (d : Device) (changes : Changes) : Device × Effects :=
  let report := Advertisement.mergeNotices d.address changes
  let merged := { d with advertisement := d.advertisement.merge changes }
  let (d₁, e₁) := merged.follow (changes.value? "Connected") (.badConnected d.address)
    connectionChanged
  let (d₂, e₂) := d₁.follow (changes.value? "ServicesResolved") (.badResolved d.address)
    resolutionChanged
  (d₂, ⟨report ++ e₁.notices ++ e₂.notices, .merged changes :: e₁.course ++ e₂.course⟩)

/-- What a batch is about. -/
inductive Subject where
  | foreign
  | attribute
  | device
  deriving DecidableEq, Repr

def subject (d : Device) (path : String) : Subject :=
  if !ObjectPath.isWithin path d.path then .foreign
  else match Handle.ofPath path with
    | .ok _ => .attribute
    | .error _ => .device

/-- Receives a batch. It fails only if it is about an attribute and the names of its changes have no
order. -/
def receive (d : Device) (batch : Batch) : Except Failure (Device × Effects) :=
  match d.subject batch.path with
  | .foreign => .ok (d, ⟨[.foreignBatch d.address batch.path d.path], []⟩)
  | .attribute =>
    (Value.sortKeys (batch.changes.map (·.1))).map fun names ↦
      (d, ⟨[.attributeBatch d.address batch.path names], []⟩)
  | .device =>
    let (next, effects) := d.update batch.changes
    let invalidated :=
      if batch.invalidated.isEmpty then [] else [.invalidated d.address batch.invalidated]
    .ok (next, { effects with notices := effects.notices ++ invalidated })

/-! ## Runs -/

/-- An operation on a device without callers. -/
inductive Operation where
  | update (changes : Changes)
  | receive (batch : Batch)
  | setState (state : ConnectionState)
  | announce (path uuid : String) (flags : PropertyFlags)

/-- One operation: the device after it, its notices, and the announced attribute. -/
def step (d : Device) : Operation → Device × List Notice × Except Failure (Option Announcement)
  | .update changes =>
    let (d, effects) := d.update changes
    (d, effects.notices, .ok none)
  | .receive batch =>
    match d.receive batch with
    | .ok (d, effects) => (d, effects.notices, .ok none)
    | .error failure => (d, [], .error failure)
  | .setState state =>
    let (d, effects) := d.transition .stored [state]
    (d, effects.notices, .ok none)
  | .announce path uuid flags =>
    let (d, notices, outcome) := d.announce path uuid flags
    (d, notices, outcome.map some)

def run (d : Device) (operations : List Operation) : Device :=
  operations.foldl (fun d operation ↦ (d.step operation).1) d

end Device

end GattPeer
