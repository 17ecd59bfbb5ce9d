import GattPeer.PropertyFlags
import GattPeer.Uuid

/-!
# Characteristics

An attribute together with the range of handles that it occupies. Characteristics are ordered by
the start of their range, then by its end, by the handle of the value, by the text of the UUID and
by the bits of the flags, so that a sorted list is sorted by range.
-/

namespace GattPeer

/-- An attribute and the range of handles that it occupies. -/
structure Characteristic where
  /-- The first handle of the range. -/
  start : Int
  /-- The last handle of the range. -/
  stop : Int
  /-- The handle of the value. -/
  value : Int
  /-- The type of the attribute. -/
  uuid : Uuid
  /-- What can be done with it. -/
  flags : PropertyFlags
  deriving DecidableEq, Repr

namespace Characteristic

/-- Makes a characteristic of its fields. Its type may be given in any spelling. -/
def make (start stop value : Int) (uuid : String) (flags : PropertyFlags) :
    Except Failure Characteristic := do
  let uuid ← Uuid.parse uuid
  return { start, stop, value, uuid, flags }

/-- Compares field by field, the first difference decides. -/
def compare (a b : Characteristic) : Ordering :=
  (Ord.compare a.start b.start).then <|
  (Ord.compare a.stop b.stop).then <|
  (Ord.compare a.value b.value).then <|
  (Ord.compare a.uuid.text b.uuid.text).then <|
  Ord.compare a.flags.bits b.flags.bits

def sort (cs : List Characteristic) : List Characteristic :=
  cs.mergeSort fun a b ↦ (a.compare b).isLE

end Characteristic

end GattPeer
