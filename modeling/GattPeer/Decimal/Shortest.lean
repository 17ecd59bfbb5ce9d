import GattPeer.Decimal.Double

/-!
# The shortest decimal text of a double

A double stands for every real that rounds to it. Its text has the fewest digits of all decimals in
that interval and, among those, the digits nearest to the double. The search walks the grids of one,
two, … seventeen digits and tests the two neighbours of the double on each, in exact arithmetic.
-/

namespace GattPeer.Decimal

/-! ## The digits -/

/-- A positive number `value / unit` and the ends of the interval of reals that round to it. -/
structure RoundingInterval where
  /-- The lower end, over `unit`. -/
  low : Nat
  /-- The number itself, over `unit`. -/
  value : Nat
  /-- The upper end, over `unit`. -/
  high : Nat
  /-- The common denominator. -/
  unit : Nat
  /-- Whether the ends round to the number too. -/
  closed : Bool

/-- The interval of the double `mantissa * 2 ^ scale`. Below a power of two the gap is half as wide;
the ends belong to the interval if the mantissa is even. -/
def RoundingInterval.ofDouble (mantissa : Nat) (scale : Int) : RoundingInterval :=
  let narrow := mantissa == Nat.pow 2 52 && scale != -1074
  let up := Nat.pow 2 (scale - 2).toNat
  { low := (4 * mantissa - if narrow then 1 else 2) * up
    value := 4 * mantissa * up
    high := (4 * mantissa + 2) * up
    unit := Nat.pow 2 (2 - scale).toNat
    closed := mantissa % 2 == 0 }

/-- Whether `digits * 10 ^ exponent` lies in the interval. -/
def RoundingInterval.holds (r : RoundingInterval) (digits : Nat) (exponent : Int) : Bool :=
  let x := digits * Nat.pow 10 exponent.toNat * r.unit
  let shift := Nat.pow 10 (-exponent).toNat
  if r.closed then r.low * shift ≤ x && x ≤ r.high * shift
  else r.low * shift < x && x < r.high * shift

/-- The nearer of the two neighbours on the grid `10 ^ exponent` that lie in the interval; a tie
goes to the even one. -/
def RoundingInterval.onGrid (r : RoundingInterval) (exponent : Int) : Option Nat :=
  let num := r.value * Nat.pow 10 (-exponent).toNat
  let den := r.unit * Nat.pow 10 exponent.toNat
  let below := num / den
  match r.holds below exponent && below != 0, r.holds (below + 1) exponent with
  | true, true => some (roundDiv num den)
  | true, false => some below
  | false, true => some (below + 1)
  | false, false => none

/-- The least `k` with the number below `10 ^ k`, found next to the estimate that the binary
logarithm gives. -/
def RoundingInterval.magnitude (r : RoundingInterval) (mantissa : Nat) (scale : Int) : Int :=
  let estimate := ((mantissa.log2 : Int) + scale) * 30103 / 100000
  let below (k : Int) : Bool :=
    r.value * Nat.pow 10 (-k).toNat < Nat.pow 10 k.toNat * r.unit
  if below estimate then estimate
  else if below (estimate + 1) then estimate + 1
  else estimate + 2

/-- Removes trailing zeros of the digits into the exponent; `fuel` bounds their number. -/
def dropZeros : Nat → Nat → Int → Nat × Int
  | 0, digits, exponent => (digits, exponent)
  | fuel + 1, digits, exponent =>
    if digits % 10 == 0 && digits != 0 then dropZeros fuel (digits / 10) (exponent + 1)
    else (digits, exponent)

/-- The digits and the exponent of the shortest decimal of a positive double. -/
def shortest (mantissa : Nat) (scale : Int) : Nat × Int :=
  let r := RoundingInterval.ofDouble mantissa scale
  let k := r.magnitude mantissa scale
  -- Seventeen digits always suffice, so that the search finds something.
  let found := (List.range 17).findSome? fun n ↦
    let exponent := k - (n + 1 : Nat)
    (r.onGrid exponent).map fun digits ↦ (digits, exponent)
  let (digits, exponent) := found.getD (r.value, 0)
  dropZeros 20 digits exponent

/-! ## The layout -/

/-- How the digits of a decimal are laid out. -/
structure DecimalLayout where
  /-- Numbers from `10 ^ positionalFrom` on are written without an exponent … -/
  positionalFrom : Int
  /-- … if they are below `10 ^ positionalBelow`. -/
  positionalBelow : Int
  /-- The least number of digits of an exponent. -/
  exponentWidth : Nat

/-- Values of properties are written positionally from a ten-thousandth up to ten to the sixteenth.
-/
def valueLayout : DecimalLayout := ⟨-4, 16, 2⟩

/-- Lays out `digits * 10 ^ exponent`. A positional number has at least one digit on either side of
the point. -/
def DecimalLayout.layOut (l : DecimalLayout) (digits : Nat) (exponent : Int) : String :=
  let ds := Nat.repr digits
  let point := (ds.length : Int) + exponent
  if l.positionalFrom < point ∧ point ≤ l.positionalBelow then
    if point ≤ 0 then "0." ++ String.ofList (List.replicate (-point).toNat '0') ++ ds
    else if 0 ≤ exponent then ds ++ String.ofList (List.replicate exponent.toNat '0') ++ ".0"
    else String.ofList (ds.toList.take point.toNat ++ '.' :: ds.toList.drop point.toNat)
  else
    let power := point - 1
    let powerDigits := Nat.repr power.natAbs
    let padding := List.replicate (l.exponentWidth - powerDigits.length) '0'
    let lead := match ds.toList with
      | [] => []
      | [d] => [d]
      | d :: rest => d :: '.' :: rest
    String.ofList (lead ++ ['e', if power < 0 then '-' else '+'] ++ padding) ++ powerDigits

/-- The shortest text of a double. -/
def Double.shortestText : Double → String
  | .nan => "nan"
  | .infinite negative => if negative then "-inf" else "inf"
  | .finite negative mantissa scale =>
    let magnitude :=
      if mantissa = 0 then "0.0"
      else
        let (digits, exponent) := shortest mantissa scale
        valueLayout.layOut digits exponent
    (if negative then "-" else "") ++ magnitude

end GattPeer.Decimal
