import GattPeer.Announcement

/-!
# Ranges of handles

The ranges of attributes follow from their handles alone: services and characteristics each form a
stream in the order of their handles, an entry of a stream ends one before the next entry starts,
and the last one extends to the greatest handle. The two streams do not see each other; their
entries are sorted together.
-/

namespace GattPeer.Ranges

/-- The greatest handle. -/
def maxHandle : Int := 0xffff

/-- The least handle that a discovery asks for. -/
def minHandle : Int := 1

/-- The announcements of one kind in the order of their handles; equal handles keep their order. -/
def stream (kind : AttributeKind) (announcements : List Announcement) : List Announcement :=
  (announcements.filter (·.handle.kind = kind)).mergeSort
    fun a b ↦ a.handle.number ≤ b.handle.number

/-- The entries of a stream, each ending one before the next. -/
def entries : List Announcement → List Characteristic
  | [] => []
  | [a] => [a.spanning maxHandle]
  | a :: next :: rest => a.spanning (next.handle.number - 1) :: entries (next :: rest)

/-- The ranges of all services and characteristics, sorted. -/
def build (announcements : List Announcement) : List Characteristic :=
  Characteristic.sort
    (entries (stream .service announcements) ++ entries (stream .characteristic announcements))

end GattPeer.Ranges
