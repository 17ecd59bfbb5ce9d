import GattPeer.StateMonitor

/-!
# Settled monitors

A monitor is settled if nobody waits for what its state already gives. Every operation leaves a
monitor settled: who starts to wait tests the condition first, and whoever stores a state notifies
at the end. Only the state at the end of a transition counts for those who wait, which is the law of
`transition` on which everything else about waiting rests.
-/

namespace GattPeer

/-- A condition does not hold in a state: it has a value there, and the value counts as false. -/
def Condition.Rejects (condition : Condition) (state : ConnectionState) : Prop :=
  ∃ value, condition state = .ok value ∧ value.isTrue = false

namespace Waiter

variable {κ : Type} {w : Waiter κ} {state : ConnectionState}

theorem tag_of_react {woken : Woken κ} (h : w.react state = some woken) : woken.tag = w.tag := by
  unfold react at h
  split at h
  · rw [← Option.some.inj h]
  · split at h
    · rw [← Option.some.inj h]
    · simp at h

@[simp] theorem react_eq_none_iff : w.react state = none ↔ w.condition.Rejects state := by
  unfold react Condition.Rejects
  constructor
  · intro h
    split at h
    · simp at h
    · next value hvalue =>
      refine ⟨value, hvalue, ?_⟩
      by_cases htrue : value.isTrue = true
      · simp [htrue] at h
      · exact Bool.eq_false_iff.mpr htrue
  · rintro ⟨value, hvalue, hfalse⟩
    rw [hvalue]
    simp [hfalse]

end Waiter

namespace StateMonitor

variable {κ : Type}

/-- Nobody waits for what the state already gives. -/
def Settled (monitor : StateMonitor κ) : Prop :=
  ∀ w ∈ monitor.waiting, w.react monitor.state = none

/-! ## Transitions -/

def arrival (monitor : StateMonitor κ) (states : List ConnectionState) : ConnectionState :=
  states.getLast?.getD monitor.state

def seeing (monitor : StateMonitor κ) (state : ConnectionState) : StateMonitor κ :=
  { monitor with state, waiting := monitor.waiting.filter fun w ↦ (w.react state).isNone }

def wokenBy (monitor : StateMonitor κ) (state : ConnectionState) : List (Woken κ) :=
  monitor.waiting.filterMap fun w ↦ w.react state

@[simp] theorem assignAll_fst (monitor : StateMonitor κ) (states : List ConnectionState) :
    (monitor.assignAll states).1 = { monitor with state := monitor.arrival states } := by
  induction states generalizing monitor with
  | nil => rfl
  | cons state states ih =>
    rw [assignAll, ih, arrival, arrival]
    cases states with
    | nil => rfl
    | cons next rest => rw [List.getLast?_cons_cons]; rfl

/-- **Only the last state of a transition is seen.** -/
theorem transition_eq (monitor : StateMonitor κ) (states : List ConnectionState) :
    monitor.transition states = (monitor.seeing (monitor.arrival states),
      (monitor.assignAll states).2, monitor.wokenBy (monitor.arrival states)) := by
  have h := assignAll_fst monitor states
  rw [transition]
  simp only [h]
  rfl

/-! ## Settled monitors stay settled -/

theorem settled_start (owner : String) (state : ConnectionState) :
    (start owner state : StateMonitor κ).Settled := by
  intro w hw
  simp [start] at hw

theorem settled_seeing (monitor : StateMonitor κ) (state : ConnectionState) :
    (monitor.seeing state).Settled := by
  intro w hw
  exact Option.isNone_iff_eq_none.mp (List.mem_filter.mp hw).2

theorem await_of_react_eq_none {monitor : StateMonitor κ} {w : Waiter κ}
    (h : w.react monitor.state = none) :
    monitor.await w = ({ monitor with waiting := monitor.waiting ++ [w] }, none) := by
  rw [await, h]

theorem await_of_react_eq_some {monitor : StateMonitor κ} {w : Waiter κ} {woken : Woken κ}
    (h : w.react monitor.state = some woken) : monitor.await w = (monitor, some woken) := by
  rw [await, h]

theorem Settled.await {monitor : StateMonitor κ} (h : monitor.Settled) (w : Waiter κ) :
    (monitor.await w).1.Settled := by
  cases hreact : w.react monitor.state with
  | some woken => rwa [await_of_react_eq_some hreact]
  | none =>
    rw [await_of_react_eq_none hreact]
    intro u hu
    rcases List.mem_append.mp hu with hu | hu
    · exact h u hu
    · rw [List.mem_singleton.mp hu]
      exact hreact

end StateMonitor

end GattPeer
