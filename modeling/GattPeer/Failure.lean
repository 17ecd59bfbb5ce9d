import GattPeer.Value.Written

/-!
# Failures

Every way in which an operation of the library can fail, by cause. The wording is in
`Failure.message`; `Failure.isAboutDevice` and `Failure.isRejectedValue` are the two families that a
caller may want to catch at once. What a failure is about is kept as the value that was given, which
need not be a text where the wording wants one.
-/

namespace GattPeer

/-- Why an operation failed. -/
inductive Failure where
  /-- A failure of the device without a more special cause. -/
  | device (message : String)
  /-- The device is not connected, or was lost while a call waited. -/
  | notConnected (message : String)
  /-- An operation exceeded its time budget. -/
  | timedOut (budget : Number)
  /-- A time budget that is no number, from which no time can be taken. -/
  | noBudget (kind : String)
  /-- A limit of a wait that is no number. -/
  | noLimit (kind : String)
  /-- The end of a wait lies beyond what the clock can count. -/
  | beyondClock
  /-- No attribute is known for the requested operation. -/
  | notSupported (operation : Value)
  /-- The other side answered with an error reply. -/
  | refused (name message : Value)
  /-- An object path does not name an attribute. -/
  | notAnAttribute (path : Value)
  /-- The operation is not offered. -/
  | notImplemented (operation : String)
  /-- The link to the bus is not running. -/
  | notStarted
  /-- The bus does not exist on this platform. -/
  | wrongPlatform
  /-- The bus could not be reached. -/
  | busUnreachable (reason : String)
  /-- The other side failed without an answer. -/
  | raised (reason : String)
  /-- A message cannot carry this object path. -/
  | invalidObjectPath (path : String)
  /-- A UUID does not have 32 digits. -/
  | uuidLength
  /-- The digits of a UUID are not a hexadecimal numeral. -/
  | uuidDigits (digits : String)
  /-- A byte is negative or above 255. -/
  | byteOutOfRange
  /-- A negative number of bytes. -/
  | negativeByteCount
  /-- A number of bytes that cannot be counted. -/
  | countTooLarge
  /-- More bytes than a byte string can have. -/
  | tooManyBytes
  /-- More bytes than there is memory for. -/
  | outOfMemory
  /-- A text where bytes are wanted. -/
  | textAsBytes
  /-- A value that is no sequence of bytes. -/
  | notBytes (kind : String)
  /-- A value that is no integer. -/
  | notAnInteger (kind : String)
  /-- A value that is no mapping. -/
  | notAMapping (kind : String)
  /-- A value without items. -/
  | notIterable (kind : String)
  /-- A value that cannot be a key. -/
  | notAKey (kind : String)
  /-- Two values without an order between them. -/
  | notComparable (left right : String)
  /-- An integer too large for a double. -/
  | numberTooLarge
  /-- A text where a number is wanted. -/
  | textAsNumber
  /-- A value that is no number. -/
  | notANumber (kind : String)
  /-- A setting that does not exist. -/
  | unknownSetting (name : String)
  /-- A setting under a name that the settings themselves have. -/
  | reservedSetting (name : String)
  /-- A failure cannot be made without an argument. -/
  | missingArgument (family parameter : String)
  /-- A failure cannot be made of so many arguments. -/
  | tooManyArguments (family : String) (least most given : Nat)

namespace Failure

/-- The failure of an operation whose budget ran out. A budget that cannot be written as a decimal
is a failure of its own. -/
def expired (budget : Number) : Failure :=
  if budget.hasDouble then .timedOut budget else .numberTooLarge

/-- The failure to reach a connected device, when nothing more is known. -/
def disconnected : Failure := .notConnected "Not connected"

/-- The most characters that the text of a malformed numeral takes up in a message. -/
def numeralTextLimit : Nat := 200

def message : Failure → String
  | .device message | .notConnected message => message
  | .timedOut budget => "Timed out after " ++ budget.oneDecimal?.getD "" ++ " s"
  | .noBudget kind => "unsupported operand type(s) for -: '" ++ kind ++ "' and 'float'"
  | .noLimit kind => "'>' not supported between instances of '" ++ kind ++ "' and 'int'"
  | .beyondClock => "timestamp too large to convert to C _PyTime_t"
  | .notSupported operation => "Not supported: " ++ operation.shown
  | .refused name message =>
    name.shown ++ if message.isTrue then ": " ++ message.shown else ""
  | .notAnAttribute path => "Not an attribute path: " ++ path.shown
  | .notImplemented operation => operation
  | .notStarted => "BluezTransport is not started"
  | .wrongPlatform => "BlueZ transport is only available on Linux"
  | .busUnreachable reason | .raised reason => reason
  | .invalidObjectPath path => "invalid object path: " ++ path
  | .uuidLength => "badly formed hexadecimal UUID string"
  | .uuidDigits digits =>
    "invalid literal for int() with base 16: "
      ++ String.ofList ((Text.quote digits).toList.take numeralTextLimit)
  | .byteOutOfRange => "bytes must be in range(0, 256)"
  | .negativeByteCount => "negative count"
  | .countTooLarge => "cannot fit 'int' into an index-sized integer"
  | .tooManyBytes => "byte string is too large"
  | .outOfMemory => ""
  | .textAsBytes => "string argument without an encoding"
  | .notBytes kind => "cannot convert '" ++ kind ++ "' object to bytes"
  | .notAnInteger kind => "'" ++ kind ++ "' object cannot be interpreted as an integer"
  | .notAMapping kind => "'" ++ kind ++ "' object has no attribute 'items'"
  | .notIterable kind => "'" ++ kind ++ "' object is not iterable"
  | .notAKey kind => "unhashable type: '" ++ kind ++ "'"
  | .notComparable left right =>
    "'<' not supported between instances of '" ++ left ++ "' and '" ++ right ++ "'"
  | .numberTooLarge => "int too large to convert to float"
  | .textAsNumber => "Unknown format code 'f' for object of type 'str'"
  | .notANumber kind => "unsupported format string passed to " ++ kind ++ ".__format__"
  | .unknownSetting name =>
    "PeripheralConfig.__init__() got an unexpected keyword argument '" ++ name ++ "'"
  | .reservedSetting name =>
    "PeripheralConfig.__init__() got multiple values for argument '" ++ name ++ "'"
  | .missingArgument family parameter =>
    family ++ ".__init__() missing 1 required positional argument: '" ++ parameter ++ "'"
  | .tooManyArguments family least most given =>
    family ++ ".__init__() takes " ++ (if least = most then "" else "from " ++ least.repr ++ " to ")
      ++ most.repr ++ " positional arguments but " ++ given.repr ++ " were given"

/-- The failures that concern the device, as opposed to the program around it. -/
def isAboutDevice : Failure → Bool
  | .device _ | .notConnected _ | .timedOut _ | .notSupported _ | .refused .. => true
  | .notAnAttribute _ => true
  | _ => false

/-- The failures that reject a value which has the right kind. -/
def isRejectedValue : Failure → Bool
  | .notAnAttribute _ | .uuidLength | .uuidDigits _ | .byteOutOfRange | .negativeByteCount => true
  | .textAsNumber => true
  | _ => false

end Failure

end GattPeer
