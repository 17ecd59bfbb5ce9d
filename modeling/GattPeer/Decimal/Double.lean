/-!
# Double-precision numbers by their bits

A finite double is an integer times a power of two. Everything that is printed or compared is
computed from these two integers, exactly.
-/

namespace GattPeer.Decimal

/-- What the bits of a double stand for. -/
inductive Double where
  /-- Not a number. -/
  | nan
  /-- An infinity with its sign. -/
  | infinite (negative : Bool)
  /-- The number `mantissa * 2 ^ scale`, negated if `negative`. A zero keeps its sign. -/
  | finite (negative : Bool) (mantissa : Nat) (scale : Int)
  deriving DecidableEq, Repr

/-- Reads the sign bit, the eleven bits of the exponent and the 52 bits of the fraction. -/
def Double.ofBits (bits : UInt64) : Double :=
  let n := bits.toNat
  let negative := n / Nat.pow 2 63 == 1
  let exponent : Nat := n / Nat.pow 2 52 % Nat.pow 2 11
  let fraction := n % Nat.pow 2 52
  if exponent = 2047 then if fraction = 0 then .infinite negative else .nan
  else if exponent = 0 then .finite negative fraction (-1074)
  else .finite negative (fraction + Nat.pow 2 52) ((exponent : Int) - 1075)

/-! ## Rounding to an integer -/

/-- The integer nearest to `num / den`; a tie goes to the even neighbour. -/
def roundDiv (num den : Nat) : Nat :=
  let floor := num / den
  let rest := num % den
  if 2 * rest < den then floor
  else if den < 2 * rest then floor + 1
  else floor + floor % 2

/-- The double nearest to a natural number, again as a natural number; nothing if it would be
infinite. -/
def nearestDouble? (n : Nat) : Option Nat :=
  let unit := Nat.pow 2 (n.log2 - 52)
  let rounded := roundDiv n unit * unit
  if rounded < Nat.pow 2 1024 then some rounded else none

/-! ## One decimal place -/

/-- A number of tenths as text. -/
def tenthsText (negative : Bool) (tenths : Nat) : String :=
  (if negative then "-" else "") ++ Nat.repr (tenths / 10) ++ "." ++ Nat.repr (tenths % 10)

/-- The exact value rounded to one decimal place, a tie to the even neighbour. -/
def Double.oneDecimal : Double → String
  | .nan => "nan"
  | .infinite negative => if negative then "-inf" else "inf"
  | .finite negative mantissa scale =>
    tenthsText negative
      (roundDiv (mantissa * 10 * Nat.pow 2 scale.toNat) (Nat.pow 2 (-scale).toNat))

end GattPeer.Decimal
