import GattPeer.Value.Key

/-!
# Property flags

What can be done with a characteristic: a set of flags, each with a bit and with a name. Flags that
are announced by a name without a bit are left out.
-/

namespace GattPeer

/-- A set of property flags, as the sum of their bits. -/
structure PropertyFlags where
  /-- The bits. -/
  bits : Nat
  deriving DecidableEq, Repr

namespace PropertyFlags

structure Flag where
  /-- The bit. -/
  bit : Nat
  /-- The name in an announcement. -/
  announced : String
  /-- The name in log records. -/
  label : String

/-- The flags that have names, from the lowest bit to the highest. -/
def flags : List Flag := [
  ⟨0x01, "broadcast", "BROADCAST"⟩,
  ⟨0x02, "read", "READ"⟩,
  ⟨0x04, "write-without-response", "WRITE_WITHOUT_RESPONSE"⟩,
  ⟨0x08, "write", "WRITE"⟩,
  ⟨0x10, "notify", "NOTIFY"⟩,
  ⟨0x20, "indicate", "INDICATE"⟩,
  ⟨0x40, "authenticated-signed-writes", "AUTHENTICATED_SIGNED_WRITES"⟩,
  ⟨0x80, "extended-properties", "EXTENDED_PROPERTIES"⟩]

def none : PropertyFlags := ⟨0⟩

/-- The bits of an integer. A negative integer counts from the end of the smallest span that holds
it: the span of the named bits, or a power of two above that. -/
def ofInt (value : Int) : PropertyFlags :=
  if 0 ≤ value then ⟨value.toNat⟩
  else if -256 ≤ value then ⟨(256 + value).toNat⟩
  else ⟨((Nat.pow 2 (value.natAbs.log2 + 1) : Nat) + value).toNat⟩

/-- The bit of an announced name; values that are no names of flags have none. -/
def bitOf (name : Value) : Nat :=
  match flags.find? fun flag ↦ name.isText flag.announced with
  | some flag => flag.bit
  | Option.none => 0

/-- The set of the announced names. -/
def ofNames (names : List Value) : Except Failure PropertyFlags :=
  names.foldlM (fun set name ↦
    match name.keyObstacle? with
    | some kind => .error (.notAKey kind)
    | Option.none => .ok ⟨set.bits ||| bitOf name⟩) none

/-- The flags of a set that have names, from the lowest bit to the highest. -/
def named (set : PropertyFlags) : List Flag := flags.filter fun flag ↦ set.bits &&& flag.bit != 0

/-- A set as log records show it: its named flags, then what remains as a number, then the sum. -/
def text (set : PropertyFlags) : String :=
  let labels := set.named.map Flag.label
  let rest := set.bits - set.bits % 256
  -- Without a named flag the remainder shows in the sum alone.
  let parts := if set.bits = 0 then ["NONE"] else
    if rest = 0 || labels.isEmpty then labels else labels ++ [rest.repr]
  "<CharPropFlags" ++ (if parts.isEmpty then "" else "." ++ "|".intercalate parts) ++ ": "
    ++ set.bits.repr ++ ">"

end PropertyFlags

end GattPeer
