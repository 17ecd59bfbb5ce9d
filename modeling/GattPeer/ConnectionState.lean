/-!
# Connection states

The stages of a connection, from least to most ready.
-/

namespace GattPeer

/-- The stage of the connection to a device. -/
inductive ConnectionState where
  /-- There is no connection. -/
  | notConnected
  /-- There is a connection; the services of the device are not known yet. -/
  | connected
  /-- The services of the device are known. -/
  | servicesResolved
  deriving DecidableEq, Repr

namespace ConnectionState

/-- How ready a state is. -/
def rank : ConnectionState → Nat
  | .notConnected => 0
  | .connected => 1
  | .servicesResolved => 2

def name : ConnectionState → String
  | .notConnected => "NOT_CONNECTED"
  | .connected => "CONNECTED"
  | .servicesResolved => "SERVICES_RESOLVED"

def ofName? (s : String) : Option ConnectionState :=
  [.notConnected, .connected, .servicesResolved].find? (·.name == s)

def isConnected (s : ConnectionState) : Bool := 1 ≤ s.rank

end ConnectionState

end GattPeer
