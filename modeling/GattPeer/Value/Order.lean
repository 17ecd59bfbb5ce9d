import GattPeer.Failure
import GattPeer.Value

/-!
# Equality and order of values

Numbers are equal by value, whatever their forms, and byte strings by their bytes, in a buffer or
not. Lists and tuples are equal item by item, mappings if they hold equal values under equal keys.

The order is partial. Numbers are ordered by value, texts by code points, byte strings by bytes, and
lists among lists, as tuples among tuples, by the first items that are not equal. Asking for the
order of other values fails. A double without a value equals nothing, itself included, and is less
than nothing; so it can be asked for, but it is in no order.
-/

namespace GattPeer.Value

/-! ## Equality -/

mutual

def equal : Value → Value → Bool
  | .none, .none => true
  | .text a, .text b => a == b
  | .list as, .list bs => equalItems as bs
  | .tuple as, .tuple bs => equalItems as bs
  | .map as, b | .pairs as, b =>
    match b.entries? with
    | some bs => as.length == bs.length && entriesWithin as bs
    | Option.none => false
  | .variant s a, .variant t b => s == t && equal a b
  | a, b =>
    match a.number?, b.number? with
    | some x, some y => x.equals y
    | _, _ =>
      match a.bytes?, b.bytes? with
      | some x, some y => x == y
      | _, _ => false

def equalItems : List Value → List Value → Bool
  | [], [] => true
  | a :: as, b :: bs => equal a b && equalItems as bs
  | _, _ => false

/-- Whether every entry has an equal among others. -/
def entriesWithin : List (Value × Value) → List (Value × Value) → Bool
  | [], _ => true
  | (key, value) :: entries, others =>
    others.any (fun other ↦ equal key other.1 && equal value other.2)
      && entriesWithin entries others

end

/-! ## Order -/

mutual

/-- Whether a value is less than another. -/
def less : Value → Value → Except Failure Bool
  | .text a, .text b => .ok (a < b)
  | .list as, .list bs => lessItems as bs
  | .tuple as, .tuple bs => lessItems as bs
  | a, b =>
    match a.number?, b.number? with
    | some x, some y => .ok (x.compare? y == some .lt)
    | _, _ =>
      match a.bytes?, b.bytes? with
      | some x, some y => .ok (x.map UInt8.toNat < y.map UInt8.toNat)
      | _, _ => .error (.notComparable a.kindName b.kindName)

/-- Whether a sequence is less than another: by their first items that are not equal, or if it is
the beginning of the other. -/
def lessItems : List Value → List Value → Except Failure Bool
  | [], bs => .ok !bs.isEmpty
  | _ :: _, [] => .ok false
  | a :: as, b :: bs => if equal a b then lessItems as bs else less a b

end

end GattPeer.Value
