import GattPeer.Notice
import GattPeer.Ranges

/-!
# The table of attributes

The announced attributes of a device in the order of their first announcements, and the ranges that
were published last. A later announcement of a handle takes the place of the earlier one. Nothing is
published until the ranges are asked for, and what was published stays until the next time.
-/

namespace GattPeer

/-- The announced attributes of a device and their published ranges. -/
structure AttributeTable where
  /-- Whose attributes they are. -/
  owner : String
  /-- The latest announcements in the order of the first announcements of their handles. -/
  announcements : List Announcement
  /-- The ranges that were published last. -/
  published : List Characteristic

namespace AttributeTable

def empty (owner : String) : AttributeTable := ⟨owner, [], []⟩

/-! ## Announcements by handle -/

def lookup? (announcements : List Announcement) (number : Int) : Option Announcement :=
  announcements.find? (·.handle.number = number)

/-- Stores an announcement in place of the one of its handle, or at the end. -/
def store (a : Announcement) : List Announcement → List Announcement
  | [] => [a]
  | b :: rest => if b.handle.number = a.handle.number then a :: rest else b :: store a rest

/-! ## Operations -/

/-- Announces an attribute. -/
def announce (t : AttributeTable) (path uuid : String) (flags : PropertyFlags) :
    AttributeTable × List Notice × Except Failure Announcement :=
  let adding := Notice.adding t.owner uuid flags path
  match Announcement.read path uuid flags with
  | .error failure => (t, [adding], .error failure)
  | .ok a =>
    let replaced := match lookup? t.announcements a.handle.number with
      | some old => [Notice.replaced t.owner a.handle.number.toNat old.path path]
      | none => []
    ({ t with announcements := store a t.announcements }, adding :: replaced, .ok a)

/-- The path of the latest announcement of a handle. -/
def pathOf? (t : AttributeTable) (number : Int) : Option String :=
  (lookup? t.announcements number).map (·.path)

/-- The first announced attribute of a type with its handle from `start` to `stop`. -/
def find? (t : AttributeTable) (uuid : String) (start stop : Int) :
    Except Failure (Option Characteristic) := do
  let target ← Uuid.parse uuid
  pure ((t.announcements.find? fun a ↦
    a.uuid = target && start ≤ a.handle.number && a.handle.number ≤ stop).map (·.unranged))

/-- Computes the ranges anew and publishes them. -/
def publish (t : AttributeTable) : AttributeTable × List Notice :=
  let ranges := Ranges.build t.announcements
  ({ t with published := ranges },
    [.published t.owner ranges.length t.announcements.length])

def clear (t : AttributeTable) : AttributeTable := { t with announcements := [], published := [] }

/-! ## Runs -/

inductive Operation where
  | announce (path uuid : String) (flags : PropertyFlags)
  | size
  | announcements
  | pathOf (number : Int)
  | find (uuid : String) (start stop : Int)
  | publish
  | published
  /-- Computes the ranges without publishing them. -/
  | ranges
  | clear
  deriving DecidableEq, Repr

inductive Answer where
  | nothing
  | announcement (a : Announcement)
  | count (n : Nat)
  | announcements (as : List Announcement)
  | path (p : Option String)
  | characteristic (c : Option Characteristic)
  | characteristics (cs : List Characteristic)
  deriving DecidableEq, Repr

def step (t : AttributeTable) : Operation → AttributeTable × List Notice × Except Failure Answer
  | .announce path uuid flags =>
    let (t, notices, a) := t.announce path uuid flags
    (t, notices, a.map .announcement)
  | .size => (t, [], .ok (.count t.announcements.length))
  | .announcements => (t, [], .ok (.announcements t.announcements))
  | .pathOf number => (t, [], .ok (.path (t.pathOf? number)))
  | .find uuid start stop => (t, [], (t.find? uuid start stop).map .characteristic)
  | .publish =>
    let (t, notices) := t.publish
    (t, notices, .ok (.characteristics t.published))
  | .published => (t, [], .ok (.characteristics t.published))
  | .ranges => (t, [], .ok (.characteristics (Ranges.build t.announcements)))
  | .clear => (t.clear, [], .ok .nothing)

def run (t : AttributeTable) (operations : List Operation) : AttributeTable :=
  operations.foldl (fun t operation ↦ (t.step operation).1) t

end AttributeTable

end GattPeer
