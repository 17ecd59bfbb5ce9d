import GattPeer.Failure
import GattPeer.Value

/-!
# Values as numbers

Time budgets arrive as values. One that is to be written as a number and is none is refused: a text
for its form, and any other value for its kind.
-/

namespace GattPeer.Value

def toNumber (value : Value) : Except Failure Number :=
  match value.number?, value with
  | some n, _ => .ok n
  | Option.none, .text _ => .error .textAsNumber
  | Option.none, value => .error (.notANumber value.kindName)

end GattPeer.Value
