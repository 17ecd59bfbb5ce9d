import GattPeer.Notice

/-!
# Reading property values

Each property is read on its own. A reader strips all variant layers first and gives nothing for a
value of the wrong shape. Manufacturer data is a mapping from company numbers to bytes; it is
flattened to one byte string, in which each entry is its company number in two bytes, the low one
first, and then its bytes. Entries of the wrong shape are left out and reported.
-/

namespace GattPeer.Decode

/-- The byte of an item: a number from 0 to 255. -/
def byte? (item : Value) : Option UInt8 :=
  match item.unwrap.integer? with
  | some n => if 0 ≤ n ∧ n ≤ 255 then some (UInt8.ofNat n.toNat) else none
  | none => none

/-- Truth values, and integers, of which the positive ones are true. -/
def truth? (value : Value) : Option Bool :=
  match value.unwrap with
  | .bool b => some b
  | .int n => some (0 < n)
  | _ => none

def text? (value : Value) : Option String :=
  match value.unwrap with
  | .text s => some s
  | _ => none

/-- Integers, narrowed to eight bits with a sign. -/
def signalStrength? (value : Value) : Option Int :=
  match value.unwrap with
  | .int n => some (n.bmod 256)
  | _ => none

/-! ## Manufacturer data -/

/-- The bytes of a payload: byte strings, and lists and tuples of bytes. -/
def payload? (value : Value) : Option (List UInt8) :=
  match value.unwrap with
  | .bytes data | .buffer data => some data
  | .list items | .tuple items => items.mapM byte?
  | _ => none

/-- A company number: an integer from 0 to 65535. -/
def company? (value : Value) : Option Nat :=
  match value.unwrap with
  | .int n => if 0 ≤ n ∧ n ≤ 0xffff then some n.toNat else none
  | _ => none

/-- A number below 65536 in two bytes, the low one first. -/
def twoBytes (n : Nat) : List UInt8 := [UInt8.ofNat (n % 256), UInt8.ofNat (n / 256)]

/-- The bytes of an entry, or what is wrong with it. -/
def manufacturerEntry (entry : Value × Value) : Except Notice (List UInt8) :=
  match company? entry.1 with
  | none => .error (.badCompany entry.1.unwrap)
  | some company =>
    match payload? entry.2 with
    | none => .error (.badPayload company entry.2)
    | some data => .ok (twoBytes company ++ data)

/-- The bytes of the entries that have the right shape. -/
def manufacturerBytes (entries : List (Value × Value)) : List UInt8 :=
  entries.flatMap fun entry ↦ (manufacturerEntry entry).toOption.getD []

/-- The entries of a mapping, beneath all variant layers. -/
def entries? (value : Value) : Option (List (Value × Value)) := value.unwrap.entries?

def manufacturerData? (value : Value) : Option (List UInt8) :=
  (entries? value).map manufacturerBytes

/-- What is wrong with entries of manufacturer data. -/
def manufacturerNotices (value : Value) : List Notice :=
  ((entries? value).getD []).filterMap fun entry ↦
    match manufacturerEntry entry with
    | .error notice => some notice
    | .ok _ => none

end GattPeer.Decode
