import GattPeer.Proofs.Session.Moves

/-!
# What leaves a transport

A method call leaves the link at most once: not at all if the link does not run or the path is no
object path, and once otherwise, whether it is answered or not. The signals that arrive meanwhile
send nothing. Hence what an operation sends can be read off the method calls that it consists of.

## The argument

The trace of a session only grows, and so does the list of what left. From one session to another
*sends* things of some kind if all that is new in the list is of that kind. This is a preorder, so
the rules for actions that keep a relation apply.
-/

namespace GattPeer

/-- What an event lets leave, if anything. A call that nobody answers leaves all the same. -/
def Event.departure? : Event → Option Sent
  | .sent x => some x
  | .unanswered m => some (.call m)
  | _ => none

namespace Session

variable {τ : Type} {s s' : Session τ} {P : Sent → Prop}

def departures (s : Session τ) : List Sent := s.trace.filterMap Event.departure?

def Report.departures (r : Report) : List Sent := r.trace.filterMap Event.departure?

/-- From one session to another while only things of some kind leave. -/
def Sends (P : Sent → Prop) (s s' : Session τ) : Prop :=
  ∃ xs, s'.departures = s.departures ++ xs ∧ ∀ x ∈ xs, P x

instance (P : Sent → Prop) : IsPreorder (Session τ) (Sends P) where
  refl s := ⟨[], (List.append_nil _).symm, List.forall_mem_nil _⟩
  trans := by
    rintro s s' t ⟨xs, hxs, hall⟩ ⟨ys, hys, hall'⟩
    refine ⟨xs ++ ys, ?_, List.forall_mem_append.mpr ⟨hall, hall'⟩⟩
    rw [hys, hxs, List.append_assoc]

theorem departures_advance {ρ σ : Type} [OperatedTransport τ ρ σ] (s : Session τ) (replies : List ρ)
    (drive : Drive σ) :
    (s.advance replies drive).2.departures = (drive.act.leaves (s.loading replies)).departures := by
  rw [advance_eq]
  rfl

theorem departures_append {events : List Event} (h : s'.trace = s.trace ++ events) :
    s'.departures = s.departures ++ events.filterMap Event.departure? := by
  rw [departures, h, List.filterMap_append]
  rfl

theorem sends_append {events : List Event} (h : s'.trace = s.trace ++ events)
    (hnone : ∀ e ∈ events, e.departure? = none) : s.Sends P s' := by
  refine ⟨[], ?_, List.forall_mem_nil _⟩
  rw [departures_append h, List.filterMap_eq_nil_iff.mpr hnone]

theorem sends_of_trace_eq (h : s'.trace = s.trace) : s.Sends P s' :=
  sends_append (h.trans (List.append_nil _).symm) (List.forall_mem_nil _)

theorem Sends.departures_eq (h : s.Sends (fun _ ↦ False) s') : s'.departures = s.departures := by
  obtain ⟨xs, hxs, hall⟩ := h
  rw [hxs, List.eq_nil_iff_forall_not_mem.mpr hall, List.append_nil]

theorem sends_record {e : Event} (h : ∀ x, e.departure? = some x → P x) :
    (Act.record e).Keeps (Sends P) s := by
  refine .modify ⟨e.departure?.toList, ?_, fun x hx ↦ h x (Option.mem_toList.mp hx)⟩
  rw [@departures_append τ s _ [e] rfl]
  cases hdeparture : e.departure? with
  | none => rw [List.filterMap_cons_none hdeparture]; rfl
  | some x => rw [List.filterMap_cons_some hdeparture]; rfl

theorem sends_report (n : Notice) : (Act.report n).Keeps (Sends P) s := sends_record nofun

theorem sends_changing (device : Device) (author : Author) (notices : List Notice)
    (course : List Happening) : s.Sends P (s.changing device author notices course) := by
  refine sends_append (List.append_assoc ..) fun e he ↦ ?_
  rcases List.mem_append.mp he with he | he
  · obtain ⟨n, -, rfl⟩ := List.mem_map.mp he
    rfl
  · obtain ⟨h, -, rfl⟩ := List.mem_map.mp he
    rfl

theorem sends_deliver (author : Author) (batch : Batch) :
    (Act.deliver author batch).Keeps (Sends P) s := by
  rw [Act.Keeps, Act.leaves, deliver_apply]
  cases s.device.receive batch with
  | ok result => exact sends_changing ..
  | error failure => exact refl_of (Sends P) s

theorem sends_announce (path uuid : String) (flags : PropertyFlags) :
    (announce path uuid flags).Keeps (Sends P) s := by
  rw [Act.Keeps, leaves_announce]
  exact sends_changing ..

/-! ## Calls that wait -/

theorem sends_conclude (s : Session τ) (e : EndedCall) : s.Sends P (s.conclude e) := by
  refine sends_append rfl fun e' he ↦ ?_
  rw [List.mem_singleton.mp he]
  rfl

theorem sends_proceed (s : Session τ) (id : Nat) (journal : List Notice)
    (answer : Except Failure (Option Purpose)) : s.Sends P (s.proceed id journal answer) := by
  rcases proceed_cases s id journal answer with ⟨_, _, -, hproceed⟩ | ⟨_, -, -, hproceed⟩
  · rw [hproceed]
    exact sends_conclude ..
  · rw [hproceed]
    exact sends_of_trace_eq rfl

theorem sends_reachDeadline (id : Nat) :
    (reachDeadline id : Act τ Unit).Keeps (Sends P) s := by
  rw [Act.Keeps, leaves_reachDeadline]
  refine sends_append rfl fun e he ↦ ?_
  obtain ⟨h, -, rfl⟩ := List.mem_map.mp he
  rfl

@[simp] theorem filterMap_departure?_withoutCaller (trace : List Event) :
    (withoutCaller trace).filterMap Event.departure? = trace.filterMap Event.departure? := by
  rw [withoutCaller, List.filterMap_filter]
  congr 1
  funext e
  cases e with
  | notice author n => cases author <;> rfl
  | sent _ => rfl
  | unanswered _ => rfl
  | callback _ => rfl
  | happening _ => rfl

theorem departures_spawn (request : Act τ (Option Purpose)) (s : Session τ) :
    ((spawn request).leaves s).departures
      = s.departures ++ (request.leaves s.requesting).departures := by
  have hproceed := (sends_proceed (P := fun _ ↦ False)
    (s.rejoining (request.leaves s.requesting)) s.nextCall
    (callerNotices (request.leaves s.requesting).trace)
    (request.answers s.requesting)).departures_eq
  have hrejoining : (s.rejoining (request.leaves s.requesting)).departures
      = s.departures ++ (request.leaves s.requesting).departures := by
    rw [@departures_append τ s (s.rejoining _) _ rfl, filterMap_departure?_withoutCaller]
    rfl
  rw [Act.leaves, spawn_eq, hproceed, hrejoining]

theorem sends_spawn {request : Act τ (Option Purpose)}
    (h : request.Keeps (Sends P) s.requesting) : (spawn request).Keeps (Sends P) s := by
  obtain ⟨xs, hxs, hall⟩ := h
  refine ⟨xs, ?_, hall⟩
  rw [departures_spawn, hxs]
  rfl

end Session

/-! ## Messages -/

namespace BusLink

variable {s : Session BusLink} {P : Sent → Prop}

open Session

theorem sends_tell (batch : Batch) (listener : Listener) :
    (tell batch listener).Keeps (Sends P) s := by
  cases listener with
  | device =>
    refine .bind (.attempt (sends_deliver ..)) fun result s' ↦ ?_
    cases result with
    | ok _ => exact .pure _
    | error _ => exact sends_record nofun
  | callback name failure =>
    exact .bind (sends_record nofun) fun _ _ ↦ .ite (sends_record nofun) (.pure _)

/-- **A message sends nothing**, whoever is told about it. -/
theorem sends_handle (m : Message) : (handle m).Keeps (Sends P) s := by
  rw [handle]
  split
  · split
    · exact sends_record fun _ h ↦ absurd h.symm (Option.some_ne_none _)
    · refine .bind (.ofExcept _) fun batch s' ↦ .bind (.get_bind (.pure _)) fun link s' ↦ ?_
      exact .forM fun _ _ ↦ sends_tell ..
  · exact .pure _

end BusLink

/-! ## Method calls -/

/-- What the caller of a method reports first. -/
def MethodCall.begun (m : MethodCall) : Event :=
  .notice .caller (.calling m.interfaceName m.member m.path)

/-- A session over the bus in which something was recorded. -/
def Session.recording (s : Session BusLink) (events : List Event) : Session BusLink :=
  { s with trace := s.trace ++ events }

@[simp] theorem Session.recording_nil (s : Session BusLink) : s.recording [] = s := by
  rw [recording, List.append_nil]

theorem Session.recording_cons (s : Session BusLink) (e : Event) (events : List Event) :
    s.recording (e :: events) = (s.recording [e]).recording events := by
  rw [recording, recording, recording, List.append_cons]

@[simp] theorem Session.departures_recording (s : Session BusLink) (events : List Event) :
    (s.recording events).departures = s.departures ++ events.filterMap Event.departure? :=
  departures_append rfl

theorem Session.departures_recording_begun (s : Session BusLink) (m : MethodCall) :
    (s.recording [m.begun]).departures = s.departures :=
  (s.departures_recording _).trans (List.append_nil _)

namespace BusLink

variable {s : Session BusLink} {m : MethodCall} {timeout : Value} {P : Sent → Prop}

open Session

def upcoming (link : BusLink) : BusReply := link.replies.head?.getD usualReply

@[simp] theorem departure?_leaving (m : MethodCall) (answer : BusAnswer) :
    (leaving m answer).departure? = some (.call m) := by
  cases answer <;> rfl

/-- A session in which a method call is on its way: the link has taken the next reply. -/
def dispatching (s : Session BusLink) (m : MethodCall) : Session BusLink :=
  recording { s with transport := { s.transport with replies := s.transport.replies.tail } }
    [m.begun, leaving m s.transport.upcoming.answer]

@[simp]
theorem config_dispatching (s : Session BusLink) (m : MethodCall) :
    (dispatching s m).config = s.config :=
  rfl

@[simp] theorem departures_dispatching (s : Session BusLink) (m : MethodCall) :
    (dispatching s m).departures = s.departures ++ [.call m] := by
  rw [dispatching, departures_recording, List.filterMap_cons_none rfl,
    List.filterMap_cons_some (departure?_leaving ..), List.filterMap_nil]
  rfl

/-- What is left of a method call that is on its way: to handle the signals before its answer, and
to take the answer. -/
def awaiting (limit : Value) (reply : BusReply) : Act BusLink (List Value) := do
  reply.during.forM fun batch ↦ handle (signalOf batch)
  .ofExcept (results limit reply.answer)

/-- What is left of a method call after its first notice. -/
def calling (m : MethodCall) (running : Bool) (limit : Value) : Act BusLink (List Value) := do
  if !running then throw .notStarted
  if let some failure := limitFailure? limit then
    if ObjectPath.isValid m.path then .record (.unanswered m)
    throw failure
  if !ObjectPath.isValid m.path then throw (.invalidObjectPath m.path)
  let reply ← nextReply
  .record (leaving m reply.answer)
  awaiting limit reply

theorem call_eq (m : MethodCall) (timeout : Value) (s : Session BusLink) :
    call m timeout s = calling m s.transport.running (s.transport.limitOf timeout)
      (s.recording [m.begun]) := rfl

theorem call_of_not_running (h : s.transport.running = false) :
    call m timeout s = .error .notStarted (s.recording [m.begun]) := by
  rw [call_eq, h]
  rfl

/-- A method call fails if nobody can wait for its answer. It leaves all the same. -/
theorem call_of_limitFailure (h : s.transport.running = true) {failure : Failure}
    (hlimit : limitFailure? (s.transport.limitOf timeout) = some failure) :
    call m timeout s = .error failure
      (s.recording (m.begun :: if ObjectPath.isValid m.path then [.unanswered m] else [])) := by
  rw [call_eq, h, calling, hlimit]
  cases hvalid : ObjectPath.isValid m.path with
  | false => rfl
  | true =>
    rw [if_pos rfl, recording_cons s m.begun [.unanswered m]]
    rfl

/-- A method call fails, and does not leave, if its path is no object path. -/
theorem call_of_not_valid (h : s.transport.running = true)
    (hlimit : limitFailure? (s.transport.limitOf timeout) = none)
    (hvalid : ObjectPath.isValid m.path = false) :
    call m timeout s = .error (.invalidObjectPath m.path) (s.recording [m.begun]) := by
  rw [call_eq, h, calling, hlimit, hvalid]
  rfl

/-- **A method call leaves**, and its answer is waited for. -/
theorem call_of_valid (h : s.transport.running = true)
    (hlimit : limitFailure? (s.transport.limitOf timeout) = none)
    (hvalid : ObjectPath.isValid m.path = true) :
    call m timeout s = awaiting (s.transport.limitOf timeout) s.transport.upcoming
      (dispatching s m) := by
  rw [call_eq, h, calling, hlimit, hvalid, dispatching, recording_cons _ m.begun [_]]
  rfl

theorem sends_awaiting (limit : Value) (reply : BusReply) :
    (awaiting limit reply).Keeps (Sends P) s :=
  .bind (.forM fun _ _ ↦ sends_handle _) fun _ _ ↦ .ofExcept _

/-- **A method call leaves once** if the link runs and its path is an object path, and else it does
not leave, whatever comes of it. -/
theorem departures_call (m : MethodCall) (timeout : Value) (s : Session BusLink) :
    ((call m timeout).leaves s).departures = s.departures ++
      if s.transport.running && ObjectPath.isValid m.path then [.call m] else [] := by
  rw [Act.leaves]
  cases hrunning : s.transport.running with
  | false =>
    rw [call_of_not_running hrunning]
    exact departures_recording ..
  | true =>
    rw [Bool.true_and]
    cases hlimit : limitFailure? (s.transport.limitOf timeout) with
    | some failure =>
      rw [call_of_limitFailure hrunning hlimit]
      refine (departures_recording ..).trans ?_
      cases ObjectPath.isValid m.path <;> rfl
    | none =>
      cases hvalid : ObjectPath.isValid m.path with
      | false =>
        rw [call_of_not_valid hrunning hlimit hvalid]
        exact departures_recording ..
      | true =>
        have hawaiting : (awaiting (s.transport.limitOf timeout) s.transport.upcoming).Keeps
            (Sends fun _ ↦ False) (dispatching s m) := sends_awaiting ..
        rw [call_of_valid hrunning hlimit hvalid]
        exact hawaiting.departures_eq.trans (departures_dispatching s m)

theorem sends_call (h : P (.call m)) : (call m timeout).Keeps (Sends P) s := by
  refine ⟨_, departures_call m timeout s, fun x hx ↦ ?_⟩
  split at hx
  · rwa [List.mem_singleton.mp hx]
  · exact absurd hx List.not_mem_nil

end BusLink

end GattPeer
