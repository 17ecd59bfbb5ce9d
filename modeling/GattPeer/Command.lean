import GattPeer.Value

/-!
# Commands and messages

What a device asks of its transport, and what a transport sends. Timeouts are handed on as they are
given; the absent value is no timeout.
-/

namespace GattPeer

/-- A request of a device to its transport. -/
inductive Command where
  /-- To connect. -/
  | connect (path : String) (timeout : Value)
  /-- To disconnect. -/
  | disconnect (path : String) (timeout : Value)
  /-- To read the value of an attribute. -/
  | readValue (path : String) (timeout : Value)
  /-- To write the value of an attribute. -/
  | writeValue (path : String) (data : List UInt8) (timeout : Value)
  /-- To deliver the property changes on a path and below it; the answer is a token. -/
  | addMatch (path : String)
  /-- To deliver them no longer. -/
  | removeMatch (token : Value)

structure MethodCall where
  /-- The service that is called. -/
  destination : String
  /-- The object that is called. -/
  path : String
  /-- The interface of the method. -/
  interfaceName : String
  /-- The method. -/
  member : String
  /-- The types of the arguments. -/
  signature : String
  /-- The arguments. -/
  body : List Value

inductive MessageKind where
  /-- A signal. -/
  | signal
  /-- A method call. -/
  | methodCall
  /-- The return of a method call. -/
  | methodReturn
  /-- The error reply to a method call. -/
  | error
  deriving DecidableEq, Repr

/-- A message that arrives from the bus. -/
structure Message where
  /-- What kind of message it is. -/
  kind : MessageKind
  /-- The object that sent it. -/
  path : String
  /-- Its interface, if it has one. -/
  interfaceName : Option String
  /-- Its member, if it has one. -/
  member : Option String
  /-- Its body. -/
  body : Value

/-- What leaves a transport. -/
inductive Sent where
  /-- A command, carried out as it is. -/
  | command (c : Command)
  /-- A connection to the bus is opened. -/
  | busOpened
  /-- The handler of messages is installed. -/
  | handlerInstalled
  /-- The connection to the bus is closed. -/
  | busClosed
  /-- A method call. -/
  | call (m : MethodCall)

end GattPeer
