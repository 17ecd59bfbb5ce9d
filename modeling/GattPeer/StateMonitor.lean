import GattPeer.Notice

/-!
# The monitor of the connection state

Callers wait for conditions on the connection state. A waiter is data: its condition, and a tag by
which its owner goes on with the call. It tests its condition when it starts to wait and once at
every notification, sees the state at that time, and ends as soon as the condition holds or fails.
Storing a state notifies; a transition stores any number of states and notifies once, at its end, so
that no waiter sees a state in between.
-/

namespace GattPeer

/-- A condition on the connection state. It holds if its value counts as true. -/
abbrev Condition := ConnectionState → Except Failure Value

namespace Condition

/-- How a condition compares the state with a given one. -/
inductive Relation where
  | atLeast
  | above
  | atMost
  | below
  | same
  | other
  deriving DecidableEq, Repr

def Relation.holds : Relation → ConnectionState → ConnectionState → Bool
  | .atLeast, a, b => b.rank ≤ a.rank
  | .above, a, b => b.rank < a.rank
  | .atMost, a, b => a.rank ≤ b.rank
  | .below, a, b => a.rank < b.rank
  | .same, a, b => a = b
  | .other, a, b => a ≠ b

/-- The state is in a relation to a given one. -/
def comparing (relation : Relation) (than : ConnectionState) : Condition :=
  fun state ↦ .ok (.bool (relation.holds state than))

def constant (value : Value) : Condition := fun _ ↦ .ok value

def failing (reason : String) : Condition := fun _ ↦ .error (.raised reason)

end Condition

/-- Someone who waits for a condition. -/
structure Waiter (κ : Type) where
  /-- What it waits for. -/
  condition : Condition
  /-- Who it is. -/
  tag : κ

/-- The end of a wait: who waited, and the state that met the condition or the failure of the
condition. -/
structure Woken (κ : Type) where
  /-- Who waited. -/
  tag : κ
  /-- The state at the end of the wait. -/
  outcome : Except Failure ConnectionState

/-- The test of a waiter in a state: the end of its wait, or nothing if it goes on waiting. -/
def Waiter.react {κ : Type} (w : Waiter κ) (state : ConnectionState) : Option (Woken κ) :=
  match w.condition state with
  | .error failure => some ⟨w.tag, .error failure⟩
  | .ok value => if value.isTrue then some ⟨w.tag, .ok state⟩ else none

/-- A connection state and those who wait for conditions on it, in the order of their arrival. -/
structure StateMonitor (κ : Type) where
  /-- Whose connection it is. -/
  owner : String
  /-- The state. -/
  state : ConnectionState
  /-- Those who wait. -/
  waiting : List (Waiter κ)

namespace StateMonitor

variable {κ : Type}

/-- A monitor in a state, without waiters. -/
def start (owner : String) (state : ConnectionState) : StateMonitor κ := ⟨owner, state, []⟩

/-- Stores a state without a notification. Only a change is reported. -/
def assign (monitor : StateMonitor κ) (state : ConnectionState) : StateMonitor κ × List Notice :=
  ({ monitor with state := state },
    if state = monitor.state then [] else [.moved monitor.owner monitor.state state])

/-- Stores states one after the other, without a notification. -/
def assignAll (monitor : StateMonitor κ) : List ConnectionState → StateMonitor κ × List Notice
  | [] => (monitor, [])
  | state :: states =>
    let (next, notices) := monitor.assign state
    let (last, more) := next.assignAll states
    (last, notices ++ more)

/-- Notifies: every waiter tests its condition, and those whose wait ends leave. -/
def notify (monitor : StateMonitor κ) : StateMonitor κ × List (Woken κ) :=
  ({ monitor with waiting := monitor.waiting.filter fun w ↦ (w.react monitor.state).isNone },
    monitor.waiting.filterMap fun w ↦ w.react monitor.state)

/-- A transition through states, with one notification at its end. -/
def transition (monitor : StateMonitor κ) (states : List ConnectionState) :
    StateMonitor κ × List Notice × List (Woken κ) :=
  let (moved, notices) := monitor.assignAll states
  let (monitor, woken) := moved.notify
  (monitor, notices, woken)

def set (monitor : StateMonitor κ) (state : ConnectionState) :
    StateMonitor κ × List Notice × List (Woken κ) :=
  monitor.transition [state]

/-- Starts to wait: the wait ends at once, or the waiter joins those who wait. -/
def await (monitor : StateMonitor κ) (w : Waiter κ) : StateMonitor κ × Option (Woken κ) :=
  match w.react monitor.state with
  | some woken => (monitor, some woken)
  | none => ({ monitor with waiting := monitor.waiting ++ [w] }, none)

/-- The failure of a wait that does not end before its limit is looked at: a limit that no double is
near to, or that is beyond what the clock can count. -/
def limitFailure? (limit : Number) : Option Failure :=
  if !limit.hasDouble then some .numberTooLarge
  else if limit.exceedsClock then some .beyondClock
  else none

/-- A wait with a limit, in which no notification comes. Without time left, the condition is only
evaluated, and its value is the answer; otherwise the answer is whether it held. -/
def check (monitor : StateMonitor κ) (condition : Condition) (limit : Option Number) :
    Except Failure (Value × ConnectionState) := do
  let value ← condition monitor.state
  if limit.any Number.isSpent then return (value, monitor.state)
  if !value.isTrue then
    if let some failure := limit.bind limitFailure? then throw failure
  return (.bool value.isTrue, monitor.state)

/-! ## Runs -/

/-- An operation on a monitor whose waiters are numbered. -/
inductive Operation where
  | get
  | set (state : ConnectionState)
  | notify
  /-- A wait with a limit. -/
  | check (condition : Condition) (limit : Option Number)
  /-- A transition, whose body may fail after its last state. -/
  | transition (states : List ConnectionState) (failure : Option Failure)
  /-- A new waiter without a limit. -/
  | spawn (condition : Condition)

inductive Answer where
  | nothing
  | state (s : ConnectionState)
  | states (ss : List ConnectionState)
  | checked (value : Value) (s : ConnectionState)
  | number (n : Nat)

/-- A monitor and the number of its next waiter. -/
structure Run where
  /-- The monitor. -/
  monitor : StateMonitor Nat
  /-- The number of the next waiter. -/
  next : Nat

structure Report where
  /-- Its answer. -/
  outcome : Except Failure Answer
  /-- Its notices. -/
  notices : List Notice
  /-- The waits that ended. -/
  woken : List (Woken Nat)

def Run.step (r : Run) : Operation → Run × Report
  | .get => (r, ⟨.ok (.state r.monitor.state), [], []⟩)
  | .set state =>
    let (monitor, notices, woken) := r.monitor.set state
    ({ r with monitor := monitor }, ⟨.ok .nothing, notices, woken⟩)
  | .notify =>
    let (monitor, woken) := r.monitor.notify
    ({ r with monitor := monitor }, ⟨.ok .nothing, [], woken⟩)
  | .check condition limit =>
    (r, ⟨(r.monitor.check condition limit).map fun (value, state) ↦ .checked value state, [], []⟩)
  | .transition states failure =>
    let (monitor, notices, woken) := r.monitor.transition states
    let outcome := match failure with
      | some failure => .error failure
      | none => .ok (.states states)
    ({ r with monitor := monitor }, ⟨outcome, notices, woken⟩)
  | .spawn condition =>
    let (monitor, woken) := r.monitor.await ⟨condition, r.next⟩
    ({ monitor := monitor, next := r.next + 1 }, ⟨.ok (.number r.next), [], woken.toList⟩)

end StateMonitor

end GattPeer
