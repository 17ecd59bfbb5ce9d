import GattPeer.Number

/-!
# Bus values

The dynamically typed values that travel over the message bus and through property changes. A
variant wraps a value together with a type signature; readers strip any number of such layers
(`Value.unwrap`).
-/

namespace GattPeer

/-- A value as the message bus carries it. -/
inductive Value where
  /-- The absent value. -/
  | none
  /-- A truth value, which counts as one or zero where a number is wanted. -/
  | bool (value : Bool)
  /-- An integer of any size. -/
  | int (value : Int)
  /-- A double, by its bits. -/
  | real (bits : UInt64)
  /-- A text. -/
  | text (value : String)
  /-- A byte string. -/
  | bytes (data : List UInt8)
  /-- A byte string in a buffer that its owner may change. -/
  | buffer (data : List UInt8)
  /-- A list. -/
  | list (items : List Value)
  /-- A tuple. -/
  | tuple (items : List Value)
  /-- A mapping that stores values under keys, as its entries in the order of iteration. -/
  | map (entries : List (Value × Value))
  /-- A mapping that is a list of pairs, in which keys may be of any kind and repeat. -/
  | pairs (entries : List (Value × Value))
  /-- A value labelled with its type signature. -/
  | variant (signature : String) (value : Value)

namespace Value

/-- What a value is called in messages about values of the wrong kind. -/
def kindName : Value → String
  | .none => "NoneType"
  | .bool _ => "bool"
  | .int _ => "int"
  | .real _ => "float"
  | .text _ => "str"
  | .bytes _ => "bytes"
  | .buffer _ => "bytearray"
  | .list _ => "list"
  | .tuple _ => "tuple"
  | .map _ | .pairs _ => "dict"
  | .variant .. => "dbus_fast.signature.Variant"

/-- The value without its variant layers. -/
def unwrap : Value → Value
  | .variant _ value => value.unwrap
  | value => value

/-- The value without its outermost variant layer, if it has one. -/
def unwrapOnce : Value → Value
  | .variant _ value => value
  | value => value

/-- The number that a value is. -/
def number? : Value → Option Number
  | .bool value => some (.flag value)
  | .int value => some (.int value)
  | .real bits => some (.real bits)
  | _ => Option.none

/-- The integer that a value counts as: integers, and truth values as one and zero. -/
def integer? : Value → Option Int
  | .bool value => some (if value then 1 else 0)
  | .int value => some value
  | _ => Option.none

/-- The entries of a mapping, in the order of iteration. -/
def entries? : Value → Option (List (Value × Value))
  | .map entries | .pairs entries => some entries
  | _ => Option.none

/-- The bytes of a byte string, in a buffer or not. -/
def bytes? : Value → Option (List UInt8)
  | .bytes data | .buffer data => some data
  | _ => Option.none

def ofNumber : Number → Value
  | .int value => .int value
  | .flag value => .bool value
  | .real bits => .real bits

/-- Whether a value counts as true: all but the absent value, false, zero and what is empty do. -/
def isTrue : Value → Bool
  | .none => false
  | .bool value => value
  | .int value => value != 0
  | .real bits => !(Number.real bits).equals (.int 0)
  | .text value => value != ""
  | .bytes data | .buffer data => !data.isEmpty
  | .list items | .tuple items => !items.isEmpty
  | .map entries | .pairs entries => !entries.isEmpty
  | .variant .. => true

/-- Whether a value is the given text. -/
def isText (value : Value) (s : String) : Bool :=
  match value with
  | .text t => t == s
  | _ => false

instance : Coe String Value := ⟨.text⟩

@[simp] theorem unwrap_variant (signature : String) (value : Value) :
    (variant signature value).unwrap = value.unwrap := rfl

end Value

end GattPeer
