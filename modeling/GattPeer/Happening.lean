import GattPeer.Announcement
import GattPeer.Call

/-!
# What happens to a device

The history of a device, in the order of time: announcements are stored, batches of changes are
merged, news about the connection and the services arrive, upon which everyone who waits looks at
the connection state, and calls end. Readings, commands and notices are no part of it.
-/

namespace GattPeer

/-- News upon which everyone who waits looks at the connection state. -/
inductive News where
  /-- The connection property has a value. -/
  | connection (value : Bool)
  /-- The resolution property has a value. -/
  | resolution (value : Bool)
  /-- A state was stored. -/
  | stored
  deriving DecidableEq, Repr

/-- Something that happens to a device. -/
inductive Happening where
  /-- An announcement is stored. -/
  | announced (a : Announcement)
  /-- A batch of changes of the device itself is merged. -/
  | merged (changes : Changes)
  /-- After some news, everyone who waits looks at the connection state. -/
  | notified (news : News) (state : ConnectionState)
  /-- A call ends. -/
  | ended (e : EndedCall)

end GattPeer
