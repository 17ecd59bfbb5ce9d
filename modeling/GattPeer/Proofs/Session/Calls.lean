import GattPeer.Proofs.Device.Waiting
import GattPeer.Proofs.Session.Operations

/-!
# What calls come to

A call is started by its first part, in which the notices of the caller are taken aside. Then it
ends or begins to wait, and which of both is told by the answer of the first part and by the state
that it left. A call that waits may reach its deadline later, where it ends without a connection.
-/

namespace GattPeer.Session

variable {τ : Type} {s : Session τ}

/-! ## The start of a call -/

@[simp] theorem filterMap_withoutCaller (trace : List Event) :
    (withoutCaller trace).filterMap Event.happening? = trace.filterMap Event.happening? := by
  rw [withoutCaller, List.filterMap_filter]
  congr 1
  funext e
  cases e with
  | notice author n => cases author <;> rfl
  | sent _ => rfl
  | unanswered _ => rfl
  | callback _ => rfl
  | happening _ => rfl

/-- The session in which the first part of a call is carried out. -/
def requesting (s : Session τ) : Session τ := { s with nextCall := s.nextCall + 1, trace := [] }

/-- The session after the first part of a call, with what happened before. -/
def rejoining (s s₁ : Session τ) : Session τ :=
  { s₁ with trace := s.trace ++ withoutCaller s₁.trace }

/-- How a call goes on after its first part. -/
def proceed (s : Session τ) (id : Nat) (journal : List Notice) :
    Except Failure (Option Purpose) → Session τ
  | .error failure => s.conclude ⟨id, .error failure, journal⟩
  | .ok none => s.conclude ⟨id, .ok .nothing, journal⟩
  | .ok (some purpose) => s.await ⟨id, purpose, journal⟩

/-- **What starting a call does**: its first part, and then the rest. -/
theorem spawn_eq (request : Act τ (Option Purpose)) (s : Session τ) :
    spawn request s = .ok s.nextCall
      ((s.rejoining (request.leaves s.requesting)).proceed s.nextCall
        (callerNotices (request.leaves s.requesting).trace) (request.answers s.requesting)) := by
  change EStateM.bind request.attempt _ s.requesting = _
  rw [EStateM.bind, Act.attempt_eq]
  cases request.answers s.requesting with
  | error failure => rfl
  | ok purpose =>
    cases purpose with
    | none => rfl
    | some purpose => rfl

/-! ## The rest of a call -/

@[simp] theorem happenings_conclude (s : Session τ) (e : EndedCall) :
    (s.conclude e).happenings = s.happenings ++ [.ended e] := by
  rw [happenings, conclude, List.filterMap_append]
  rfl

/-- What a call comes to after its first part, unless it begins to wait. -/
def outcome? (d : Device) : Except Failure (Option Purpose) → Option (Except Failure Reading)
  | .error failure => some (.error failure)
  | .ok none => some (.ok .nothing)
  | .ok (some purpose) =>
    if purpose.metBy d.state then some (d.result purpose d.state).1
    else if purpose.isOver then some (d.expire ⟨0, purpose, []⟩).outcome
    else if purpose.exceedsClock then some (.error .beyondClock)
    else none

theorem await_of_met {call : Call} (h : call.purpose.metBy s.device.state = true) :
    s.await call = s.conclude (s.device.finish ⟨call, .ok s.device.state⟩) := by
  have hreact : (Device.waiter call).react s.device.state = some ⟨call, .ok s.device.state⟩ := by
    rw [Device.react_waiter, if_pos h]
  have hawait : s.device.monitor.await ⟨call.purpose.condition, call⟩ = (_, some _) :=
    StateMonitor.await_of_react_eq_some hreact
  rw [await, hawait]

theorem await_of_unmet {call : Call} (h : call.purpose.metBy s.device.state = false) :
    s.await call = if call.purpose.isOver then s.conclude (s.device.expire call)
      else if call.purpose.exceedsClock then
        s.conclude ⟨call.id, .error .beyondClock, call.journal⟩
      else { s with device := s.device.joinedBy call } := by
  have hreact : (Device.waiter call).react s.device.state = none := by
    rw [Device.react_waiter, if_neg (Bool.eq_false_iff.mp h)]
  have hawait : s.device.monitor.await ⟨call.purpose.condition, call⟩ = (_, none) :=
    StateMonitor.await_of_react_eq_none hreact
  rw [await, hawait]
  rfl

/-- A call whose purpose is not met does not wait either, if there is no time for it. -/
theorem await_cases (s : Session τ) (call : Call) :
    (call.purpose.metBy s.device.state = true ∧
      s.await call = s.conclude (s.device.finish ⟨call, .ok s.device.state⟩)) ∨
    call.purpose.metBy s.device.state = false ∧
      ((∃ failure notices, outcome? s.device (.ok (some call.purpose)) = some (.error failure) ∧
          s.await call = s.conclude ⟨call.id, .error failure, notices⟩) ∨
        outcome? s.device (.ok (some call.purpose)) = none ∧
          s.await call = { s with device := s.device.joinedBy call }) := by
  obtain ⟨id, purpose, journal⟩ := call
  cases hmet : purpose.metBy s.device.state with
  | true => exact .inl ⟨rfl, await_of_met hmet⟩
  | false =>
    refine .inr ⟨rfl, ?_⟩
    rw [await_of_unmet hmet, outcome?, hmet, if_neg Bool.false_ne_true]
    cases hover : purpose.isOver with
    | true =>
      cases purpose with
      | connect budget left => exact .inl ⟨_, _, rfl, rfl⟩
      | discover first last => exact absurd hover Bool.false_ne_true
    | false =>
      cases hclock : purpose.exceedsClock with
      | true => exact .inl ⟨_, _, rfl, rfl⟩
      | false => exact .inr ⟨rfl, rfl⟩

theorem proceed_cases (s : Session τ) (id : Nat) (journal : List Notice)
    (answer : Except Failure (Option Purpose)) :
    (∃ outcome notices, outcome? s.device answer = some outcome ∧
      s.proceed id journal answer = s.conclude ⟨id, outcome, notices⟩) ∨
    ∃ purpose, answer = .ok (some purpose) ∧ outcome? s.device answer = none ∧
      s.proceed id journal answer
        = { s with device := s.device.joinedBy ⟨id, purpose, journal⟩ } := by
  rcases answer with failure | _ | purpose
  · exact .inl ⟨_, _, rfl, rfl⟩
  · exact .inl ⟨_, _, rfl, rfl⟩
  · rcases await_cases s ⟨id, purpose, journal⟩ with
      ⟨hmet, hawait⟩ | ⟨-, ⟨failure, notices, houtcome, hawait⟩ | ⟨houtcome, hawait⟩⟩
    · exact .inl ⟨_, _, if_pos hmet, hawait⟩
    · exact .inl ⟨_, notices, houtcome, hawait⟩
    · exact .inr ⟨purpose, rfl, houtcome, hawait⟩

@[simp] theorem nextCall_proceed (s : Session τ) (id : Nat) (journal : List Notice)
    (answer : Except Failure (Option Purpose)) :
    (s.proceed id journal answer).nextCall = s.nextCall := by
  rcases proceed_cases s id journal answer with ⟨_, _, -, hproceed⟩ | ⟨_, -, -, hproceed⟩
  all_goals rw [hproceed]
  rfl

/-! ## Deadlines -/

theorem leaves_reachDeadline (id : Nat) (s : Session τ) :
    (reachDeadline id).leaves s = { s with
      device := s.device.leftBy id
      trace := s.trace ++ (s.device.endedAt id).map Event.happening } := by
  change { s with
    device := (s.device.reachDeadline id).1
    trace := s.trace ++ (s.device.reachDeadline id).2.map Event.happening } = _
  rw [Device.reachDeadline_eq]

end GattPeer.Session
