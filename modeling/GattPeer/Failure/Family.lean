import GattPeer.Value.Numeric

/-!
# Families of failures

The failures that concern the device fall into families, of which a caller can make failures of its
own. Each family has a name, and takes arguments of any kind: some need one, some have a usual one.
-/

namespace GattPeer.Failure

/-- A family of failures that concern the device. -/
inductive Family where
  /-- Without a more special cause. -/
  | device
  /-- The device is not connected. -/
  | notConnected
  /-- A time budget ran out. -/
  | timedOut
  /-- There is no attribute for an operation. -/
  | notSupported
  /-- The other side answered with an error reply. -/
  | refused
  /-- A path does not name an attribute. -/
  | notAnAttribute
  deriving DecidableEq, Repr

namespace Family

def name : Family → String
  | .device => "PeripheralError"
  | .notConnected => "NotConnectedError"
  | .timedOut => "TimedOutError"
  | .notSupported => "NotSupportedError"
  | .refused => "TransportError"
  | .notAnAttribute => "InvalidHandlePath"

def all : List Family :=
  [.device, .notConnected, .timedOut, .notSupported, .refused, .notAnAttribute]

def ofName? (s : String) : Option Family := all.find? fun family ↦ family.name == s

/-- The name of the argument that a family needs. -/
def parameter : Family → String
  | .device | .notConnected => ""
  | .timedOut => "timeout"
  | .notSupported => "operation"
  | .refused => "error_name"
  | .notAnAttribute => "path"

/-- The least and the most arguments of a family, the family itself counted as one of them. -/
def arity : Family → Nat × Nat
  | .device | .notConnected => (1, 2)
  | .refused => (2, 3)
  | .timedOut | .notSupported | .notAnAttribute => (2, 2)

/-- Makes a failure of a family. One without a special cause takes any number of arguments, and more
than one of them are its message together. -/
def make : Family → List Value → Except Failure Failure
  | .device, [] => .ok (.device "")
  | .device, [message] => .ok (.device message.shown)
  | .device, parts => .ok (.device (Value.tuple parts).written)
  | .notConnected, [] => .ok .disconnected
  | .notConnected, [message] => .ok (.notConnected message.shown)
  | .timedOut, [budget] => budget.toNumber.bind timeout
  | .notSupported, [operation] => .ok (.notSupported operation)
  | .refused, [name] => .ok (.refused name "")
  | .refused, [name, message] => .ok (.refused name message)
  | .notAnAttribute, [path] => .ok (.notAnAttribute path)
  | family, [] => .error (.missingArgument family.name family.parameter)
  | family, arguments =>
    .error (.tooManyArguments family.name family.arity.1 family.arity.2 (arguments.length + 1))
where
  /-- The failure of a budget, unless the budget cannot be written. -/
  timeout (budget : Number) : Except Failure Failure :=
    match Failure.expired budget with
    | .timedOut budget => .ok (.timedOut budget)
    | failure => .error failure

end Family

end GattPeer.Failure
