import GattPeer.Number

/-!
# Names on the bus

The names by which BlueZ is reached on the message bus, the errors that a call to connect tells
apart, and the timeouts and the adapter that hold unless a caller sets others.
-/

namespace GattPeer.BusNames

/-- The service that manages the devices. -/
def bluez : String := "org.bluez"

def deviceInterface : String := "org.bluez.Device1"

def characteristicInterface : String := "org.bluez.GattCharacteristic1"

def propertiesInterface : String := "org.freedesktop.DBus.Properties"

/-- The signal of a property change. -/
def propertiesChanged : String := "PropertiesChanged"

/-- The message bus itself, as a service and as an interface. -/
def bus : String := "org.freedesktop.DBus"

/-- The object path of the message bus itself. -/
def busPath : String := "/org/freedesktop/DBus"

/-- The error of a call to connect when there is a connection already. -/
def alreadyConnected : String := "org.bluez.Error.AlreadyConnected"

/-- The error of a call that failed. -/
def failed : String := "org.bluez.Error.Failed"

/-- Thirty seconds: the default budget for connecting, and for a single method call. -/
def defaultTimeout : Number := .real 0x403e000000000000

/-- The adapter behind which a device is found, unless a caller says otherwise. -/
def defaultAdapter : String := "hci0"

/-- The rule by which the bus sends the property changes on a path and below it. -/
def matchRule (path : String) : String :=
  "type='signal',interface='" ++ propertiesInterface ++ "',member='" ++ propertiesChanged
    ++ "',path_namespace='" ++ path ++ "'"

end GattPeer.BusNames
