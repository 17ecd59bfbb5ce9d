import GattPeer.FallibleSort
import GattPeer.Value.Order

/-!
# Values as keys

A mapping that is received is stored under keys. Lists, buffers, mappings and variants cannot be
keys, and of entries with equal keys the first gives the place and the last the value.
-/

namespace GattPeer.Value

mutual

/-- The part of a value, if any, that keeps it from being a key, by its kind. -/
def keyObstacle? : Value → Option String
  | .tuple items => itemsObstacle? items
  | .list items => some (Value.list items).kindName
  | .buffer data => some (Value.buffer data).kindName
  | .map entries => some (Value.map entries).kindName
  | .pairs entries => some (Value.pairs entries).kindName
  | .variant signature value => some (Value.variant signature value).kindName
  | _ => Option.none

/-- The first item that cannot be part of a key. -/
def itemsObstacle? : List Value → Option String
  | [] => Option.none
  | item :: items => (keyObstacle? item).or (itemsObstacle? items)

end

/-- Fails if a value cannot be a key. -/
def checkKey (value : Value) : Except Failure Unit :=
  match value.keyObstacle? with
  | some kind => .error (.notAKey kind)
  | Option.none => .ok ()

/-- Stores a value under a key: in place of the value there, or at the end. -/
def storeEntry (key value : Value) : List (Value × Value) → List (Value × Value)
  | [] => [(key, value)]
  | (k, v) :: entries =>
    if equal k key then (k, value) :: entries else (k, v) :: storeEntry key value entries

/-- The entries stored one after the other, each value without its outermost variant layer. -/
def storeEntries (entries : List (Value × Value)) : Except Failure (List (Value × Value)) :=
  entries.foldlM (fun stored entry ↦ do
    checkKey entry.1
    return storeEntry entry.1 entry.2.unwrapOnce stored) []

/-- The keys in ascending order. -/
def sortKeys (keys : List Value) : Except Failure (List Value) := FallibleSort.sort less keys

end GattPeer.Value
