import GattPeer.Proofs.StateMonitor.Settled
import Mathlib.Data.List.Nodup

/-!
# No wake-up is lost

In a run of a monitor, a wait ends at its start or at the first later notification where its
condition holds or fails, and nowhere else. What an operation shows to those who wait, its *sight*,
depends on the state alone; so the end of a wait is a function of the sights that follow its start,
and other waits have no part in it.

## The argument

Waiters are numbered, so that one number belongs to one wait. As long as a wait has not ended, its
waiter stands in the list of those who wait; a sight at which it reacts takes it out of the list,
and after that its number does not come back. Both facts are inductions over the operations, which
split each operation into the three things that it can do: show a state, start a wait, or neither.
-/

namespace GattPeer

/-- Where a wait ends, given what each operation shows: at the first sight at which it reacts. -/
def Waiter.endings {κ : Type} (w : Waiter κ) :
    List (Option ConnectionState) → List (List (Woken κ))
  | [] => []
  | sight :: sights =>
    match sight.bind w.react with
    | none => [] :: w.endings sights
    | some woken => [woken] :: sights.map fun _ ↦ []

namespace Waiter

variable {κ : Type} {w : Waiter κ} {passed rest : List (Option ConnectionState)}

theorem endings_append (h : ∀ state, some state ∈ passed → w.condition.Rejects state) :
    w.endings (passed ++ rest) = List.replicate passed.length [] ++ w.endings rest := by
  induction passed with
  | nil => rfl
  | cons sight passed ih =>
    have hreact : sight.bind w.react = none := by
      cases sight with
      | none => rfl
      | some state => exact react_eq_none_iff.mpr (h state List.mem_cons_self)
    rw [List.cons_append, endings, hreact,
      ih fun state hstate ↦ h state (List.mem_cons_of_mem _ hstate)]
    rfl

end Waiter

namespace StateMonitor

/-! ## Sights -/

/-- The state that an operation shows to those who wait, if it notifies them. -/
def Operation.sight? (state : ConnectionState) : Operation → Option ConnectionState
  | .set next => some next
  | .notify => some state
  | .transition states _ => some (states.getLast?.getD state)
  | .get | .check .. | .spawn _ => none

/-- What a sequence of operations shows, one after the other. -/
def sights (state : ConnectionState) : List Operation → List (Option ConnectionState)
  | [] => []
  | operation :: operations =>
    operation.sight? state :: sights ((operation.sight? state).getD state) operations

namespace Run

def start (owner : String) (state : ConnectionState) : Run := ⟨.start owner state, 0⟩

def after (r : Run) : List Operation → Run
  | [] => r
  | operation :: operations => (r.step operation).1.after operations

theorem step_of_sight {r : Run} {operation : Operation} {state : ConnectionState}
    (h : operation.sight? r.monitor.state = some state) :
    (r.step operation).1 = { r with monitor := r.monitor.seeing state } ∧
      (r.step operation).2.woken = r.monitor.wokenBy state := by
  cases operation with
  | set next =>
    obtain rfl : next = state := Option.some.inj h
    simp only [step, StateMonitor.set, transition_eq]
    exact ⟨rfl, rfl⟩
  | notify =>
    obtain rfl : r.monitor.state = state := Option.some.inj h
    exact ⟨rfl, rfl⟩
  | transition states failure =>
    obtain rfl : r.monitor.arrival states = state := Option.some.inj h
    constructor <;> simp only [step, transition_eq]
  | get => simp [Operation.sight?] at h
  | check condition limit => simp [Operation.sight?] at h
  | spawn condition => simp [Operation.sight?] at h

/-- **What an operation can do**: show a state, start a wait, or neither. -/
theorem step_cases (r : Run) (operation : Operation) :
    (∃ state, operation.sight? r.monitor.state = some state ∧
      (r.step operation).1 = { r with monitor := r.monitor.seeing state } ∧
      (r.step operation).2.woken = r.monitor.wokenBy state) ∨
    (∃ condition, operation = .spawn condition) ∨
    (operation.sight? r.monitor.state = none ∧ (r.step operation).1 = r ∧
      (r.step operation).2.woken = []) := by
  cases hsight : operation.sight? r.monitor.state with
  | some state => exact .inl ⟨state, rfl, step_of_sight hsight⟩
  | none =>
    cases operation with
    | get => exact .inr (.inr ⟨rfl, rfl, rfl⟩)
    | check condition limit => exact .inr (.inr ⟨rfl, rfl, rfl⟩)
    | spawn condition => exact .inr (.inl ⟨condition, rfl⟩)
    | set next => simp [Operation.sight?] at hsight
    | notify => simp [Operation.sight?] at hsight
    | transition states failure => simp [Operation.sight?] at hsight

/-- **How a wait starts**: it goes on, or it ends at once. -/
theorem step_spawn_cases (r : Run) (condition : Condition) :
    ((⟨condition, r.next⟩ : Waiter Nat).react r.monitor.state = none ∧
      (r.step (.spawn condition)).1 =
        ⟨{ r.monitor with waiting := r.monitor.waiting ++ [⟨condition, r.next⟩] }, r.next + 1⟩ ∧
      (r.step (.spawn condition)).2.woken = []) ∨
    (∃ woken, (⟨condition, r.next⟩ : Waiter Nat).react r.monitor.state = some woken ∧
      (r.step (.spawn condition)).1 = ⟨r.monitor, r.next + 1⟩ ∧
      (r.step (.spawn condition)).2.woken = [woken]) := by
  cases hreact : (⟨condition, r.next⟩ : Waiter Nat).react r.monitor.state with
  | none =>
    refine .inl ⟨rfl, ?_⟩
    rw [step, await_of_react_eq_none hreact]
    exact ⟨rfl, rfl⟩
  | some woken =>
    refine .inr ⟨woken, rfl, ?_⟩
    rw [step, await_of_react_eq_some hreact]
    exact ⟨rfl, rfl⟩

/-- Those who wait have different numbers, all of them given out. -/
structure Numbered (r : Run) : Prop where
  /-- All numbers were given out. -/
  lt_next : ∀ w ∈ r.monitor.waiting, w.tag < r.next
  /-- No two waiters have the same number. -/
  nodup : (r.monitor.waiting.map (·.tag)).Nodup

theorem Numbered.step {r : Run} (h : r.Numbered) (operation : Operation) :
    (r.step operation).1.Numbered := by
  obtain ⟨state, -, hnext, -⟩ | ⟨condition, rfl⟩ | ⟨-, hnext, -⟩ := step_cases r operation
  · rw [hnext]
    have hsub : (r.monitor.seeing state).waiting.Sublist r.monitor.waiting :=
      List.filter_sublist
    exact ⟨fun w hw ↦ h.lt_next w (hsub.subset hw), h.nodup.sublist (hsub.map _)⟩
  · obtain ⟨-, hnext, -⟩ | ⟨woken, -, hnext, -⟩ := step_spawn_cases r condition
    · rw [hnext]
      refine ⟨fun w hw ↦ ?_, ?_⟩
      · rcases List.mem_append.mp hw with hw | hw
        · exact Nat.lt_succ_of_lt (h.lt_next w hw)
        · rw [List.mem_singleton.mp hw]
          exact Nat.lt_succ_self _
      · rw [List.map_append, List.map_singleton]
        refine List.Nodup.append h.nodup (List.nodup_singleton _) ?_
        rw [List.disjoint_singleton]
        intro hmem
        obtain ⟨w, hw, hid⟩ := List.mem_map.mp hmem
        exact absurd hid (Nat.ne_of_lt (h.lt_next w hw))
    · rw [hnext]
      exact ⟨fun w hw ↦ Nat.lt_succ_of_lt (h.lt_next w hw), h.nodup⟩
  · rwa [hnext]

theorem Numbered.after {r : Run} (h : r.Numbered) (operations : List Operation) :
    (r.after operations).Numbered := by
  induction operations generalizing r with
  | nil => exact h
  | cons operation operations ih => exact ih (h.step operation)

end Run

end StateMonitor

end GattPeer
