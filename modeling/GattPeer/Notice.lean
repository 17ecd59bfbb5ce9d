import GattPeer.ConnectionState
import GattPeer.PropertyFlags
import GattPeer.Value.Written

/-!
# Notices

What the library reports about its work, one constructor for each kind of event. A notice has a
level, an origin, which is the part of the library that reports it, and a text. Most texts begin
with the owner of the reporting part, which is the address of the device.
-/

namespace GattPeer

inductive Level where
  /-- For those who look into the library. -/
  | debug
  /-- The course of things. -/
  | info
  /-- Something was ignored or did not come about. -/
  | warning
  /-- Something is wrong. -/
  | error
  deriving DecidableEq, Repr

/-- The part of the library that reports. -/
inductive Origin where
  /-- The table of attributes. -/
  | attributes
  /-- The monitor of the connection state. -/
  | connection
  /-- The reader of property changes. -/
  | properties
  /-- The device as its callers see it. -/
  | device
  /-- The link to the bus. -/
  | link
  deriving DecidableEq, Repr

/-- An event that the library reports. -/
inductive Notice where
  /-- An attribute is being announced. -/
  | adding (owner uuid : String) (flags : PropertyFlags) (path : String)
  /-- An announcement replaced an earlier one of the same handle. -/
  | replaced (owner : String) (handle : Nat) (old new : String)
  /-- The ranges were computed anew and published. -/
  | published (owner : String) (ranges attributes : Nat)
  /-- The connection state changed. -/
  | moved (owner : String) (old new : ConnectionState)
  /-- A batch of property changes concerns another device. -/
  | foreignBatch (owner path own : String)
  /-- A batch of property changes concerns an attribute. -/
  | attributeBatch (owner path : String) (names : List Value)
  /-- Names of properties that became invalid. -/
  | invalidated (owner : String) (names : List Value)
  /-- A batch is being merged. -/
  | updating (owner : String)
  /-- The new local name. -/
  | localName (owner : String) (name : Option String)
  /-- An entry of manufacturer data has no company number. -/
  | badCompany (company : Value)
  /-- An entry of manufacturer data has no bytes. -/
  | badPayload (company : Nat) (payload : Value)
  /-- Manufacturer data of the wrong shape. -/
  | badManufacturerData (owner : String) (value : Value)
  /-- The new manufacturer data. -/
  | manufacturerData (owner : String) (data : List UInt8)
  /-- The new address type. -/
  | addressType (owner : String) (name : String)
  /-- The new signal strength. -/
  | signalStrength (owner : String) (value : Option Int)
  /-- A connection property of the wrong shape. -/
  | badConnected (owner : String) (value : Value)
  /-- The connection property. -/
  | connectedProperty (owner : String) (value : Bool)
  /-- A resolution property of the wrong shape. -/
  | badResolved (owner : String) (value : Value)
  /-- The resolution property. -/
  | resolvedProperty (owner : String) (value : Bool)
  /-- A call to connect starts. -/
  | connecting (owner : String)
  /-- The other side says that there is a connection. -/
  | alreadyConnected (owner : String)
  /-- The other side could not connect. -/
  | connectFailed (owner message : String)
  /-- A call to connect ran out of time. -/
  | notConnectedAfter (owner : String) (budget : Number) (state : ConnectionState)
  /-- A call to connect ends well. -/
  | connected (owner : String)
  /-- A call to disconnect starts. -/
  | disconnecting (owner : String)
  /-- The device listens for property changes. -/
  | listening (owner : String)
  /-- The device no longer listens. -/
  | stoppedListening (owner : String)
  /-- A call to discover waits. -/
  | waitingForServices (owner : String)
  /-- A call to discover ends well. -/
  | servicesResolved (owner : String)
  /-- The link reached the bus. -/
  | busReached
  /-- The link to the bus was taken down. -/
  | busLeft
  /-- A method is being called. -/
  | calling (interfaceName member path : String)
  /-- A match was registered. -/
  | matchAdded (path : String) (token : Nat)
  /-- A match was removed. -/
  | matchRemoved (path : String)
  /-- A signal does not have three parts. -/
  | malformedSignal (path : String)
  /-- A callback failed on a signal. -/
  | callbackFailed (path : String)

namespace Notice

def level : Notice → Level
  | .replaced .. | .foreignBatch .. | .connectFailed .. | .callbackFailed _ => .error
  | .attributeBatch .. | .invalidated .. | .badManufacturerData .. => .warning
  | .badConnected .. | .badResolved .. | .notConnectedAfter .. => .warning
  | .connecting _ | .connected _ | .disconnecting _ => .info
  | _ => .debug

def origin : Notice → Origin
  | .adding .. | .replaced .. | .published .. => .attributes
  | .moved .. => .connection
  | .connecting _ | .alreadyConnected _ | .connectFailed .. | .notConnectedAfter .. => .device
  | .connected _ | .disconnecting _ | .listening _ | .stoppedListening _ => .device
  | .waitingForServices _ | .servicesResolved _ => .device
  | .busReached | .busLeft | .calling .. | .matchAdded .. | .matchRemoved _ => .link
  | .malformedSignal _ | .callbackFailed _ => .link
  | _ => .properties

/-- A truth value as notices show it. -/
def truthText (b : Bool) : String := (Value.bool b).written

/-- A number below 65536 as notices show it, in four hexadecimal digits. -/
def hexText (n : Nat) : String := "0x" ++ String.ofList (Text.hexFixed 4 n)

def text : Notice → String
  | .adding owner uuid flags path =>
    owner ++ ": Adding attribute " ++ uuid ++ " (" ++ flags.text ++ ") under " ++ path
  | .replaced owner handle old new =>
    owner ++ ": Replaced existing mapping for handle " ++ hexText handle ++ ": " ++ old ++ " -> "
      ++ new
  | .published owner ranges attributes =>
    owner ++ ": Rebuilt " ++ ranges.repr ++ " characteristic ranges from " ++ attributes.repr
      ++ " attributes"
  | .moved owner old new => owner ++ ": State " ++ old.name ++ " -> " ++ new.name
  | .foreignBatch owner path own =>
    owner ++ ": Got properties changed for " ++ path ++ ", but it is not under " ++ own
  | .attributeBatch owner path names =>
    owner ++ ": Ignoring properties changed on attribute " ++ path ++ ": "
      ++ (Value.list names).written
  | .invalidated owner names =>
    owner ++ ": Ignoring invalidated properties " ++ (Value.list names).written
  | .updating owner => owner ++ ": Updating peripheral properties"
  | .localName owner name =>
    owner ++ ": Updating local name to " ++ (name.elim Value.none Value.text).written
  | .badCompany company => "Skipping manufacturer data with bad id " ++ company.written
  | .badPayload company payload =>
    "Skipping manufacturer data " ++ hexText company ++ " with bad payload " ++ payload.written
  | .badManufacturerData owner value =>
    owner ++ ": Unexpected ManufacturerData shape " ++ value.written
  | .manufacturerData owner data =>
    owner ++ ": Updating manufacturer data to " ++ Text.hexOfBytes data
  | .addressType owner name => owner ++ ": Updating address type to " ++ name
  | .signalStrength owner value =>
    owner ++ ": Updating RSSI to " ++ (value.elim Value.none Value.int).written
  | .badConnected owner value => owner ++ ": Unexpected Connected value " ++ value.written
  | .connectedProperty owner value => owner ++ ": Updating connected to " ++ truthText value
  | .badResolved owner value => owner ++ ": Unexpected ServicesResolved value " ++ value.written
  | .resolvedProperty owner value => owner ++ ": Updating services resolved to " ++ truthText value
  | .connecting owner => owner ++ ": Connecting"
  | .alreadyConnected owner => owner ++ ": Already connected"
  | .connectFailed owner message => owner ++ ": BlueZ failed to connect: " ++ message
  | .notConnectedAfter owner budget state =>
    owner ++ ": Not connected after " ++ budget.oneDecimal?.getD "" ++ " s (state " ++ state.name
      ++ ")"
  | .connected owner => owner ++ ": Connected"
  | .disconnecting owner => owner ++ ": Disconnecting"
  | .listening owner => owner ++ ": Listening for property changes"
  | .stoppedListening owner => owner ++ ": Stopped listening for property changes"
  | .waitingForServices owner => owner ++ ": Waiting for services to be resolved"
  | .servicesResolved owner => owner ++ ": Services resolved"
  | .busReached => "BluezTransport: connected to system bus"
  | .busLeft => "BluezTransport: stopped"
  | .calling interfaceName member path =>
    "BluezTransport: " ++ interfaceName ++ "." ++ member ++ " on " ++ path
  | .matchAdded path token =>
    "BluezTransport: listening on " ++ path ++ " (token " ++ token.repr ++ ")"
  | .matchRemoved path => "BluezTransport: stopped listening on " ++ path
  | .malformedSignal path => "BluezTransport: malformed PropertiesChanged on " ++ path
  | .callbackFailed path =>
    "BluezTransport: PropertiesChanged callback failed for " ++ path

end Notice

end GattPeer
