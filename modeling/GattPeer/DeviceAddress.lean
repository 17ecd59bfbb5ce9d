import GattPeer.ObjectPath
import GattPeer.Text.Digit
import GattPeer.Text.Upper

/-!
# Device addresses and object paths

A device with the address `AA:BB:CC:DD:EE:FF` has the object path
`/org/bluez/<adapter>/dev_AA_BB_CC_DD_EE_FF`, and its attributes have paths below that. The address
can be read back from each of them.
-/

namespace GattPeer.DeviceAddress

def exchange (old new : Char) (cs : List Char) : List Char :=
  cs.map fun c ↦ if c = old then new else c

/-- What comes before the address in the segment of a device. -/
def deviceMark : List Char := "dev_".toList

/-- The object path of the device with an address, behind an adapter. -/
def toPath (address adapter : String) : String :=
  "/org/bluez/" ++ adapter ++ "/"
    ++ String.ofList (deviceMark ++ exchange ':' '_' (Text.upper address).toList)

/-- Whether the characters are pairs of hexadecimal digits with underscores between them, `more`
pairs after the first. -/
def arePairs : Nat → List Char → Bool
  | 0, [a, b] => Text.isHexDigit a && Text.isHexDigit b
  | more + 1, a :: b :: '_' :: cs => Text.isHexDigit a && Text.isHexDigit b && arePairs more cs
  | _, _ => false

def ofSegment? (segment : List Char) : Option String :=
  let cs := ObjectPath.dropLineFeed segment
  if deviceMark.isPrefixOf cs && arePairs 5 (cs.drop deviceMark.length) then
    some (String.ofList
      (exchange '_' ':' (Text.upper (String.ofList (cs.drop deviceMark.length))).toList))
  else none

/-- The address that a path names: that of its first segment which names one. -/
def ofPath? (path : String) : Option String :=
  (ObjectPath.segments path.toList).findSome? ofSegment?

end GattPeer.DeviceAddress
