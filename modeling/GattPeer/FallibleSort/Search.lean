/-!
# Searching by tests that may fail

Both searches give the number of elements at the beginning of a list that pass a test, as if all
that pass stood in front of all that do not. Where they do not stand so, or where a test fails, it
matters which elements are tested, and in which sequence. So both are defined by their probes:
bisection halves the candidates, and galloping doubles its distance until a probe does not pass, and
bisects what it jumped over last.
-/

namespace GattPeer.FallibleSort

variable {ε α : Type}

theorem bind_eq_ok {α β : Type} {step : Except ε α} {next : α → Except ε β} {result : β} :
    step >>= next = .ok result ↔ ∃ a, step = .ok a ∧ next a = .ok result := by
  cases step <;> simp [bind, Except.bind]

/-- The side of a sequence from which its elements are listed. -/
inductive Side where
  /-- From the first element on. -/
  | front
  /-- From the last element on. -/
  | back
  deriving DecidableEq, Repr

/-- The index of the middle one of some elements. Of two it is the one nearer to the back. -/
def Side.middle : Side → Nat → Nat
  | .front, count => count / 2
  | .back, count => (count - 1) / 2

theorem Side.middle_lt (side : Side) {count : Nat} (h : 0 < count) : side.middle count < count := by
  cases side <;> simp only [Side.middle] <;> omega

variable (side : Side) (passes : α → Except ε Bool)

/-- How many elements pass, by testing the middle one of those that may. -/
def bisect (xs : List α) : Except ε Nat :=
  if h : 0 < xs.length then do
    let middle := side.middle xs.length
    have : middle < xs.length := side.middle_lt h
    if ← passes xs[middle] then return middle + 1 + (← bisect (xs.drop (middle + 1)))
    else bisect (xs.take middle)
  else .ok 0
termination_by xs.length
decreasing_by all_goals simp only [List.length_take, List.length_drop]; omega

/-- How many elements pass, when so many in front of a probe are known to. -/
def gallopFrom (known probe : Nat) (xs : List α) : Except ε Nat :=
  if h : probe < xs.length then do
    if ← passes xs[probe] then gallopFrom (probe + 1) (2 * probe + 1) xs
    else return known + (← bisect side passes ((xs.take probe).drop known))
  else return known + (← bisect side passes (xs.drop known))
termination_by xs.length - probe

/-- How many elements pass, by testing elements at growing distances first. -/
def gallop (xs : List α) : Except ε Nat := gallopFrom side passes 0 0 xs

end GattPeer.FallibleSort
