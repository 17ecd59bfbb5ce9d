import GattPeer.Characteristic
import GattPeer.Handle

/-!
# Announcements of attributes

A device announces each of its attributes by an object path, which names the handle and the kind of
the attribute, by its type and by its flags. No announcement says where an attribute ends.
-/

namespace GattPeer

/-- An announced attribute. -/
structure Announcement where
  /-- The object path of the attribute. -/
  path : String
  /-- Its handle and kind. -/
  handle : Handle
  /-- Its type. -/
  uuid : Uuid
  /-- What can be done with it. -/
  flags : PropertyFlags
  deriving DecidableEq, Repr

namespace Announcement

/-- Reads an announcement. A bad path is found before a bad UUID. -/
def read (path uuid : String) (flags : PropertyFlags) : Except Failure Announcement := do
  let handle ← Handle.ofPath path
  let uuid ← Uuid.parse uuid
  pure { path, handle, uuid, flags }

/-- The attribute before its range is known. -/
def unranged (a : Announcement) : Characteristic :=
  { start := 0, stop := 0, value := a.handle.number, uuid := a.uuid, flags := a.flags }

/-- The attribute with a range that ends at `stop`. -/
def spanning (a : Announcement) (stop : Int) : Characteristic :=
  { start := a.handle.number, stop := stop, value := a.handle.number, uuid := a.uuid,
    flags := a.flags }

end Announcement

end GattPeer
