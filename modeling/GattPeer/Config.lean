import GattPeer.BusNames
import GattPeer.Value.Order

/-!
# Settings of a device

The time budgets of its operations, and the adapter behind which it is found. Settings are kept as
they are given; one that is of no use shows only where it is used. What the machine allows is no
setting, but is given with them.
-/

namespace GattPeer

/-- The settings of a device. -/
structure Config where
  /-- The time budget for connecting, which covers the call and the wait for the connection. If it
  is no number, the call is made and the wait fails. -/
  connectTimeout : Value
  /-- The time limit of a single method call; without one, that of the link to the bus holds. -/
  methodCallTimeout : Value
  /-- The adapter, from whose text the path of the device is derived. -/
  adapter : Value

namespace Config

/-- The settings that hold unless a caller sets others. -/
def standard : Config :=
  { connectTimeout := .ofNumber BusNames.defaultTimeout
    methodCallTimeout := .ofNumber BusNames.defaultTimeout
    adapter := BusNames.defaultAdapter }

def set (c : Config) (name : String) (value : Value) : Except Failure Config :=
  match name with
  | "connect_timeout" => .ok { c with connectTimeout := value }
  | "method_call_timeout" => .ok { c with methodCallTimeout := value }
  | "adapter" => .ok { c with adapter := value }
  | "self" => .error (.reservedSetting "self")
  | name => .error (.unknownSetting name)

/-- The standard settings with some of them changed. -/
def ofSettings (settings : List (String × Value)) : Except Failure Config :=
  settings.foldlM (fun c (name, value) ↦ c.set name value) standard

/-- Whether the settings are the standard ones. -/
def isStandard (c : Config) : Bool :=
  c.connectTimeout.equal standard.connectTimeout
    && c.methodCallTimeout.equal standard.methodCallTimeout
    && c.adapter.equal standard.adapter

end Config

/-- The settings of a device, and how much memory there is. -/
structure Setup extends Config where
  /-- The length from which on there is no memory for a byte string. -/
  memory : Nat

/-- The standard settings, with some memory. -/
def Setup.standard (memory : Nat) : Setup := { Config.standard with memory }

end GattPeer
