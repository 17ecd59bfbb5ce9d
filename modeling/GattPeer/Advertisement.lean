import GattPeer.Decode

/-!
# Advertised properties

What a device tells about itself, merged from batches of property changes. Each field follows the
last batch that mentioned its property; the number of batches is counted.
-/

namespace GattPeer

/-! ## Address types -/

inductive AddressType where
  /-- A public address, registered for the device. -/
  | registered
  /-- A random address. -/
  | random
  deriving DecidableEq, Repr

namespace AddressType

def name : AddressType → String
  | .registered => "public"
  | .random => "random"

/-- The address type that a text names, in letters of any case; other texts name the public type.
No character outside ASCII has one of the letters of `random` as its lower case. -/
def ofText (s : String) : AddressType :=
  if s.toList.map Char.toLower = "random".toList then .random else .registered

/-- The address type that a value names, a value that is no text names the public type. -/
def ofText? (s : Option String) : AddressType := s.elim .registered ofText

end AddressType

/-! ## Batches -/

/-- Changed properties: names and new values. -/
abbrev Changes := List (Value × Value)

def Changes.value? (changes : Changes) (name : String) : Option Value :=
  (changes.find? fun entry ↦ entry.1.isText name).map (·.2)

/-! ## Properties -/

/-- The advertised properties of a device. -/
structure Advertisement where
  /-- The address of the device. -/
  address : String
  /-- The type of the address. -/
  addressType : AddressType
  /-- The name of the device. -/
  localName : Option String
  /-- The signal strength. -/
  signalStrength : Option Int
  /-- The manufacturer data, flattened. -/
  manufacturerData : Option (List UInt8)
  /-- The number of batches that were merged. -/
  updates : Nat
  deriving DecidableEq, Repr

namespace Advertisement

/-- The properties of a device that has told nothing yet. -/
def initial (address : String) : Advertisement :=
  { address, addressType := .registered, localName := none, signalStrength := none,
    manufacturerData := none, updates := 0 }

/-- Merges a batch. A name and a signal strength of the wrong shape clear their fields, an address
type of the wrong shape means the public type, manufacturer data of the wrong shape is skipped. -/
def merge (a : Advertisement) (changes : Changes) : Advertisement :=
  { address := a.address
    addressType := match changes.value? "AddressType" with
      | some value => .ofText? (Decode.text? value)
      | none => a.addressType
    localName := match changes.value? "Name" with
      | some value => Decode.text? value
      | none => a.localName
    signalStrength := match changes.value? "RSSI" with
      | some value => Decode.signalStrength? value
      | none => a.signalStrength
    manufacturerData := match changes.value? "ManufacturerData" with
      | some value => (Decode.manufacturerData? value).or a.manufacturerData
      | none => a.manufacturerData
    updates := a.updates + 1 }

/-- What there is to report about the manufacturer data of a batch. -/
def manufacturerNotices (owner : String) (value : Value) : List Notice :=
  match Decode.manufacturerData? value with
  | none => [.badManufacturerData owner value]
  | some data => Decode.manufacturerNotices value ++ [.manufacturerData owner data]

/-- What there is to report about a batch: first that it is merged, then its properties one by one.
-/
def mergeNotices (owner : String) (changes : Changes) : List Notice :=
  let report (name : String) (notices : Value → List Notice) : List Notice :=
    (changes.value? name).elim [] notices
  .updating owner ::
    (report "Name" fun value ↦ [.localName owner (Decode.text? value)])
    ++ report "ManufacturerData" (manufacturerNotices owner)
    ++ (report "AddressType" fun value ↦
      [.addressType owner (AddressType.ofText? (Decode.text? value)).name])
    ++ (report "RSSI" fun value ↦ [.signalStrength owner (Decode.signalStrength? value)])

/-- The properties as the description of a device shows them. -/
def text (a : Advertisement) : String :=
  let typeName := match a.addressType with
    | .registered => "PUBLIC"
    | .random => "RANDOM"
  "PeripheralProperties(address=" ++ Text.quote a.address
    ++ ", address_type=<AddressType." ++ typeName ++ ": " ++ Text.quote a.addressType.name ++ ">"
    ++ ", local_name=" ++ (a.localName.elim Value.none Value.text).written
    ++ ", tx_power_level=" ++ (a.signalStrength.elim Value.none Value.int).written
    ++ ", manufacturer_data=" ++ (a.manufacturerData.elim Value.none Value.bytes).written
    ++ ", discovery_count=" ++ a.updates.repr ++ ")"

end Advertisement

end GattPeer
