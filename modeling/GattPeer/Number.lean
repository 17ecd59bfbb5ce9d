import GattPeer.Decimal.Double

/-!
# Numbers as they are given

A number keeps the form in which a caller or the bus gave it: an integer of any size, a truth value,
which counts as one or zero, or a double. Timeouts are such numbers, so that a report shows `30`
where `30` was asked for and `30.0` where that was.
-/

namespace GattPeer

/-- A number in the form in which it was given. -/
inductive Number where
  /-- An integer. -/
  | int (value : Int)
  /-- A truth value, which counts as one or zero. -/
  | flag (value : Bool)
  /-- A double, by its bits. -/
  | real (bits : UInt64)
  deriving DecidableEq, Repr

namespace Number

/-- The exact value of a number. -/
inductive Exact where
  /-- No value: not a number. -/
  | undefined
  /-- An infinity with its sign. -/
  | infinite (negative : Bool)
  /-- The number `value * 2 ^ scale`. -/
  | dyadic (value : Int) (scale : Int)
  deriving DecidableEq, Repr

/-! ## Exact values -/

def nanosecondsPerSecond : Nat := 1000000000

/-- The first number that does not fit into a signed word of 64 bits. -/
def wordLimit : Nat := Nat.pow 2 63

namespace Exact

/-- Compares two values; nothing if one is no value. -/
def compare? (a b : Exact) : Option Ordering :=
  match a, b with
  | .undefined, _ | _, .undefined => none
  | .infinite x, .infinite y => some (compare (!x) (!y))
  | .infinite negative, .dyadic .. => some (if negative then .lt else .gt)
  | .dyadic .., .infinite negative => some (if negative then .gt else .lt)
  | .dyadic x p, .dyadic y q =>
    some (compare (x * (Nat.pow 2 (p - q).toNat : Nat)) (y * (Nat.pow 2 (q - p).toNat : Nat)))

def isSpent : Exact → Bool
  | .undefined => false
  | .infinite negative => negative
  | .dyadic value _ => value ≤ 0

/-- Whether a clock that counts nanoseconds in a signed word of 64 bits cannot count so many
seconds. -/
def exceedsClock : Exact → Bool
  | .undefined => false
  | .infinite negative => !negative
  | .dyadic value scale =>
    (wordLimit * Nat.pow 2 (-scale).toNat : Nat)
      ≤ value * (nanosecondsPerSecond * Nat.pow 2 scale.toNat : Nat)

/-- The nearest double. It has at most 53 binary digits, of which none stands behind the 1074th
binary place, and it is infinite from `2 ^ 1024` on. -/
def rounded : Exact → Exact
  | .dyadic value scale =>
    let dropped := max (value.natAbs.log2 - 52) (-1074 - scale).toNat
    let digits := Decimal.roundDiv value.natAbs (Nat.pow 2 dropped)
    let scale := scale + dropped
    if digits ≠ 0 ∧ 1024 ≤ digits.log2 + scale then .infinite (value < 0)
    else .dyadic (value.sign * digits) scale
  | value => value

/-- The double nearest to the difference of two values. -/
def minus : Exact → Exact → Exact
  | .undefined, _ | _, .undefined => .undefined
  | .infinite x, .infinite y => if x = y then .undefined else .infinite x
  | .infinite x, .dyadic .. => .infinite x
  | .dyadic .., .infinite y => .infinite !y
  | .dyadic x p, .dyadic y q =>
    rounded (.dyadic (x * (Nat.pow 2 (p - q).toNat : Nat) - y * (Nat.pow 2 (q - p).toNat : Nat))
      (min p q))

end Exact

/-! ## Order -/

def exact : Number → Exact
  | .int value => .dyadic value 0
  | .flag value => .dyadic (if value then 1 else 0) 0
  | .real bits =>
    match Decimal.Double.ofBits bits with
    | .nan => .undefined
    | .infinite negative => .infinite negative
    | .finite negative mantissa scale => .dyadic (if negative then -mantissa else mantissa) scale

/-- Compares two numbers by value, whatever their forms; nothing if one has no value. -/
def compare? (a b : Number) : Option Ordering := a.exact.compare? b.exact

@[simp]
theorem compare?_int (a b : Int) : (int a).compare? (.int b) = some (compare a b) := by
  simp [compare?, exact, Exact.compare?]

def equals (a b : Number) : Bool := a.compare? b == some .eq

def isBelow (a : Number) (n : Int) : Bool := a.compare? (.int n) == some .lt

def isSpent (a : Number) : Bool := a.exact.isSpent

def isPositive (a : Number) : Bool := a.compare? (.int 0) == some .gt

/-- Whether the clock cannot count so many seconds. -/
def exceedsClock (a : Number) : Bool := a.exact.exceedsClock

/-- Whether a number has a nearest double. An integer has none that would be infinite as a double.
-/
def hasDouble : Number → Bool
  | .int value => (Decimal.nearestDouble? value.natAbs).isSome
  | _ => true

/-- What is left of a budget after some seconds. Both are doubles, or rounded to doubles. -/
def leftAfter (budget elapsed : Number) : Exact := budget.exact.rounded.minus elapsed.exact.rounded

/-! ## Text -/

/-- The number with one decimal place. Integers are first rounded to the nearest double; one that
would be infinite has no text. -/
def oneDecimal? : Number → Option String
  | .int value =>
    (Decimal.nearestDouble? value.natAbs).map fun n ↦ Decimal.tenthsText (value < 0) (n * 10)
  | .flag value => some (Decimal.tenthsText false (if value then 10 else 0))
  | .real bits => some (Decimal.Double.ofBits bits).oneDecimal

end Number

end GattPeer
