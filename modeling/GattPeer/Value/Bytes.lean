import GattPeer.Failure
import GattPeer.Value

/-!
# Values as bytes

What may be written to an attribute, and what is read from one: byte strings, lists and tuples of
numbers from 0 to 255, and the other values that count as bytes.
-/

namespace GattPeer.Value

/-- The byte that an item of a sequence stands for. -/
def toByte (item : Value) : Except Failure UInt8 :=
  match item.integer? with
  | some n =>
    if 0 ≤ n ∧ n < 256 then .ok (UInt8.ofNat n.toNat) else .error .byteOutOfRange
  | Option.none => .error (.notAnInteger item.kindName)

/-- The bytes that a byte string takes up beside its content. -/
def byteStringOverhead : Nat := 33

variable (memory : Nat)

/-- A number of zero bytes. A number that is no signed word of 64 bits counts nothing, a byte string
has a length that fits into such a word together with its overhead, and there is only so much
memory. -/
def zeroBytes (n : Int) : Except Failure (List UInt8) :=
  if n < -Number.wordLimit ∨ Number.wordLimit ≤ n then .error .countTooLarge
  else if n < 0 then .error .negativeByteCount
  else if Number.wordLimit ≤ n + byteStringOverhead then .error .tooManyBytes
  else if memory ≤ n then .error .outOfMemory
  else .ok (List.replicate n.toNat 0)

/-- The bytes of a value. A sequence is converted item by item, and its first bad item decides the
failure; a mapping stands for its keys; a number is a count of zero bytes. -/
def toBytes : Value → Except Failure (List UInt8)
  | .bytes data | .buffer data => .ok data
  | .list items | .tuple items => items.mapM toByte
  | .map entries | .pairs entries => entries.mapM fun entry ↦ toByte entry.1
  | .bool value => zeroBytes memory (if value then 1 else 0)
  | .int value => zeroBytes memory value
  | .text _ => .error .textAsBytes
  | value => .error (.notBytes value.kindName)

end GattPeer.Value
