import GattPeer.Proofs.Session.Alongside
import GattPeer.Proofs.Session.Departures
import GattPeer.Proofs.Session.ParingTransports

/-!
# The two transports as sinks of commands

A device asks its transport to connect, to disconnect, to read or to write, and goes on by the
answer. The link to the bus turns each command into one method call; a direct transport takes the
command as it is. If the direct transport answers as the bus does, in the way that is spelled out in
`Request.answer`, a device cannot tell over which of the two it works, as long as nobody registered
a match on the link.

## What is compared

A session over the link and one over the direct transport are *beside* each other if they have the
same common part: the settings, the device, the subscription, and what happened, without what the
link reports about itself. What a command and a method call let leave is the same if the one is
asked for by the other.
-/

namespace GattPeer

open Session Act

/-! ## Commands and messages -/

/-- The method call by which the bus is asked to carry out a command that concerns no match. -/
def Command.methodCall? : Command → Option MethodCall
  | .connect path _ => some ⟨BusNames.bluez, path, BusNames.deviceInterface, "Connect", "", []⟩
  | .disconnect path _ =>
    some ⟨BusNames.bluez, path, BusNames.deviceInterface, "Disconnect", "", []⟩
  | .readValue path _ =>
    some ⟨BusNames.bluez, path, BusNames.characteristicInterface, "ReadValue", "a\x7bsv\x7d",
      [.map []]⟩
  | .writeValue path data _ =>
    some ⟨BusNames.bluez, path, BusNames.characteristicInterface, "WriteValue", "aya\x7bsv\x7d",
      [.bytes data, .map []]⟩
  | .addMatch _ | .removeMatch _ => none

/-- What left a transport, with each command as the method call that asks for it. -/
def Sent.asCall : Sent → Sent
  | .command c => c.methodCall?.elim (.command c) .call
  | x => x

/-! ## Requests and answers -/

/-- What counts of a command for its answer. -/
structure Request where
  /-- Whether the value of an attribute is read. -/
  reads : Bool
  /-- The timeout that is given. -/
  timeout : Value

/-- The request in a command that concerns no match. -/
def Command.request? : Command → Option Request
  | .connect _ timeout | .disconnect _ timeout | .writeValue _ _ timeout => some ⟨false, timeout⟩
  | .readValue _ timeout => some ⟨true, timeout⟩
  | .addMatch _ | .removeMatch _ => none

namespace Request

/-- The time limit of a request: the timeout that is given, or else the one of the link. -/
def limit (callTimeout : Value) (r : Request) : Value :=
  match r.timeout with
  | .none => callTimeout
  | timeout => timeout

/-- The failure when nobody answers within a limit. A limit that counts as false is taken for zero.
-/
def overdue (limit : Value) : Failure :=
  .expired (if limit.isTrue then limit.number?.getD (.real 0) else .real 0)

/-- **The answer of a direct transport that corresponds to an answer of the bus.** An error reply is
a refusal with the name, or the empty one, and with the first item of the body as a text, if there
is one. No answer within the limit is a failure that names the limit, and a failure of the bus is
that failure. A read is answered by the first item of the body as bytes, as far as the memory goes,
or by no bytes if there is none. A limit that leaves no time, or that the clock cannot count, fails
whatever the bus would answer. -/
def answer (memory : Nat) (callTimeout : Value) (r : Request) (answer : BusAnswer) :
    DirectAnswer :=
  match BusLink.limitFailure? (r.limit callTimeout) with
  | some failure => .failure failure
  | none =>
    match answer with
    | .error name body =>
      .failure (.refused (name.getD "") ((body.head?.map Value.shown).getD ""))
    | .never => .failure (overdue (r.limit callTimeout))
    | .failure f => .failure f
    | .missing | .results [] => .value (some (if r.reads then .bytes [] else .none))
    | .results (value :: _) =>
      if r.reads then
        match value.toBytes memory with
        | .ok data => .value (some (.bytes data))
        | .error f => .failure f
      else .value (some .none)

/-- What the results of a method call mean for a request. -/
def reading (memory : Nat) (r : Request) (body : List Value) : Except Failure Value :=
  if r.reads then
    match body with
    | [] => .ok (.bytes [])
    | value :: _ => (value.toBytes memory).map .bytes
  else .ok .none

end Request

/-- The replies of a direct transport to requests that correspond to replies of the bus: one for
each request, without batches, since no match delivers them. -/
def directReplies (memory : Nat) (callTimeout : Value) :
    List Request → List BusReply → List DirectReply
  | [], _ => []
  | r :: requests, replies =>
    ⟨[], r.answer memory callTimeout (replies.head?.getD BusLink.usualReply).answer⟩
      :: directReplies memory callTimeout requests replies.tail

theorem Value.isTrue_eq_of_number {limit : Value} {n : Number} (h : limit.number? = some n) :
    limit.isTrue = !n.equals (.int 0) := by
  cases limit with
  | bool value =>
    obtain rfl := Option.some.inj h
    cases value <;> rfl
  | int value =>
    obtain rfl := Option.some.inj h
    rw [isTrue, Number.equals, Number.compare?_int, Bool.eq_iff_iff]
    simp
  | real bits =>
    obtain rfl := Option.some.inj h
    rfl
  | _ => contradiction

namespace BusLink

variable {s : Session BusLink} {callTimeout : Value}

/-! ## What the link does -/

theorem expired_eq_overdue (limit : Value) : expired limit = Request.overdue limit := by
  rw [expired, Request.overdue]
  cases hnumber : limit.number? with
  | none => cases limit.isTrue <;> rfl
  | some n =>
    rw [Value.isTrue_eq_of_number hnumber]
    cases hzero : n.equals (.int 0) <;> simp [hzero]

/-- A link that runs, on which no match is registered, and which has a limit for method calls. -/
structure Idle (callTimeout : Value) (link : BusLink) : Prop where
  running : link.running = true
  table : link.table = []
  callTimeout : link.callTimeout = callTimeout

theorem Idle.limitOf {link : BusLink} (h : link.Idle callTimeout) (r : Request) :
    link.limitOf r.timeout = r.limit callTimeout := by
  rw [← h.callTimeout]
  rfl

/-- Nobody is told of the batches that come while a method call is answered. -/
theorem forM_handle_of_idle (h : s.transport.Idle callTimeout) {batches : List Batch}
    (hkeys : ∀ batch ∈ batches, batch.HasTextKeys) :
    (batches.forM fun batch ↦ handle (signalOf batch)) s = .ok ⟨⟩ s := by
  induction batches with
  | nil => rfl
  | cons batch batches ih =>
    obtain ⟨hbatch, hrest⟩ := List.forall_mem_cons.mp hkeys
    obtain ⟨told, hcarried, -⟩ := exists_carried?_signalOf hbatch
    have hlisteners : s.transport.listeners (signalOf batch).path = [] := by
      rw [listeners, h.table]
      rfl
    have hhandle : handle (signalOf batch) s = .ok () s := by
      rw [handle_of_carried hcarried, hlisteners, telling, Listener.toldAll, List.append_nil]
    have hforM : (List.forM (batch :: batches) fun batch ↦ handle (signalOf batch))
        = handle (signalOf batch) >>= fun _ ↦ batches.forM fun batch ↦ handle (signalOf batch) :=
      rfl
    rw [hforM, Act.bind_of_ok hhandle]
    exact ih hrest

/-- **What a method call comes to** on a link without matches: it leaves, and it is answered, unless
nobody can wait for its answer. -/
theorem call_of_idle (h : s.transport.Idle callTimeout) {m : MethodCall} {r : Request}
    (hvalid : ObjectPath.isValid m.path = true)
    (hkeys : ∀ batch ∈ s.transport.upcoming.during, batch.HasTextKeys) :
    call m r.timeout s = match limitFailure? (r.limit callTimeout) with
      | some failure => .error failure (s.recording [m.begun, .unanswered m])
      | none => match results (r.limit callTimeout) s.transport.upcoming.answer with
        | .ok body => .ok body (dispatching s m)
        | .error failure => .error failure (dispatching s m) := by
  cases hlimit : limitFailure? (r.limit callTimeout) with
  | some failure =>
    rw [call_of_limitFailure h.running (h.limitOf r ▸ hlimit), hvalid]
    rfl
  | none =>
    have hidle : (dispatching s m).transport.Idle callTimeout := ⟨h.running, h.table, h.callTimeout⟩
    rw [call_of_valid h.running (h.limitOf r ▸ hlimit) hvalid, h.limitOf r, awaiting,
      Act.bind_of_ok (forM_handle_of_idle hidle hkeys)]
    cases results (r.limit callTimeout) s.transport.upcoming.answer <;> rfl

theorem perform_of_call {c : Command} {m : MethodCall} {r : Request}
    (hm : c.methodCall? = some m) (hr : c.request? = some r) (s : Session BusLink) :
    perform c s = match call m r.timeout s with
      | .ok body s' => match r.reading s'.config.memory body with
        | .ok value => .ok value s'
        | .error failure => .error failure s'
      | .error failure s' => .error failure s' := by
  have hdiscard (timeout : Value) : (do discard (call m timeout); return Value.none) s
      = match call m timeout s with
        | .ok _ s' => .ok .none s'
        | .error failure s' => .error failure s' := by
    cases hcall : call m timeout s with
    | error failure s' =>
      have hdone : (discard (call m timeout)) s = .error failure s' := bind_of_error hcall _
      exact bind_of_error hdone _
    | ok body s' =>
      have hdone : (discard (call m timeout)) s = .ok () s' :=
        bind_of_ok hcall fun _ ↦ (pure () : Act BusLink Unit)
      exact bind_of_ok hdone _
  cases c with
  | addMatch path => contradiction
  | removeMatch token => contradiction
  | connect path timeout =>
    obtain rfl := Option.some.inj hm
    obtain rfl := Option.some.inj hr
    exact hdiscard timeout
  | disconnect path timeout =>
    obtain rfl := Option.some.inj hm
    obtain rfl := Option.some.inj hr
    exact hdiscard timeout
  | writeValue path data timeout =>
    obtain rfl := Option.some.inj hm
    obtain rfl := Option.some.inj hr
    exact hdiscard timeout
  | readValue path timeout =>
    obtain rfl := Option.some.inj hm
    obtain rfl := Option.some.inj hr
    cases hcall : call _ timeout s with
    | error failure s' =>
      have hread : readValue path timeout s = .error failure s' := bind_of_error hcall _
      exact bind_of_error hread _
    | ok body s' =>
      rcases body with _ | ⟨value, rest⟩
      · have hread : readValue path timeout s = .ok [] s' := bind_of_ok hcall _
        exact bind_of_ok hread _
      · have hread : readValue path timeout s
            = Act.ofExcept (value.toBytes s'.config.memory) s' := bind_of_ok hcall _
        simp only [Request.reading]
        cases hbytes : value.toBytes s'.config.memory with
        | error failure =>
          rw [hbytes] at hread
          exact bind_of_error hread _
        | ok data =>
          rw [hbytes] at hread
          exact bind_of_ok hread _

end BusLink

/-! ## What a direct transport does -/

/-- How a command ends that is answered by a direct transport. -/
def DirectAnswer.outcome (c : Command) : DirectAnswer → Except Failure Value
  | .value v => .ok (v.getD (DirectSink.usualAnswer c))
  | .failure f => .error f

/-- **Corresponding answers come to the same.** -/
theorem Request.outcome_answer (memory : Nat) (callTimeout : Value) (r : Request)
    (answer : BusAnswer) (c : Command) : (r.answer memory callTimeout answer).outcome c =
      match BusLink.limitFailure? (r.limit callTimeout) with
      | some failure => .error failure
      | none => (BusLink.results (r.limit callTimeout) answer).bind (r.reading memory) := by
  unfold Request.answer
  cases BusLink.limitFailure? (r.limit callTimeout) with
  | some failure => rfl
  | none =>
    have hempty : (DirectAnswer.value (some (if r.reads then .bytes [] else .none))).outcome c
        = r.reading memory [] := by
      rw [DirectAnswer.outcome, reading]
      cases r.reads <;> rfl
    cases answer with
    | error name body => rfl
    | missing => exact hempty
    | failure f => rfl
    | never => exact congrArg Except.error (BusLink.expired_eq_overdue _).symm
    | results body =>
      rcases body with _ | ⟨value, rest⟩
      · exact hempty
      · simp only [BusLink.results, Except.bind, reading]
        cases r.reads with
        | false => rfl
        | true => cases value.toBytes memory <;> rfl

theorem DirectSink.perform_of_replies {s : Session DirectSink} {reply : DirectReply}
    {rest : List DirectReply} (h : s.transport.replies = reply :: rest)
    (hduring : reply.during = []) (c : Command) :
    let after : Session DirectSink :=
      { s with transport := ⟨rest⟩, trace := s.trace ++ [.sent (.command c)] }
    perform c s = match reply.answer.outcome c with
      | .ok value => .ok value after
      | .error failure => .error failure after := by
  obtain ⟨config, device, token, ⟨replies⟩, nextCall, trace⟩ := s
  obtain ⟨during, answer⟩ := reply
  obtain rfl : replies = ⟨during, answer⟩ :: rest := h
  obtain rfl : during = [] := hduring
  cases answer <;> rfl

/-! ## Sessions beside each other -/

/-- Of all notices, those are kept that the link to the bus did not make. -/
def Sieve.beyondLink : Sieve where
  keeps n := n.origin ≠ .link
  keeps_device n h := by
    rw [h]
    rfl

/-- What an event has in common over both transports. What the link reports about itself is left
out, and it does not count whether a method call was answered. -/
def Event.common? : Event → Option Event
  | .notice author n => if n.origin ≠ .link then some (.notice author n) else none
  | .sent x => some (.sent x.asCall)
  | .unanswered m => some (.sent (.call m))
  | .callback run => some (.callback run)
  | .happening h => some (.happening (h.sifted .beyondLink))

/-- What is left of the events of a trace is what both transports have in common. -/
def TraceSieve.common : TraceSieve where
  toSieve := .beyondLink
  event? := Event.common?
  event?_notice author n := by
    by_cases h : n.origin = .link <;> simp [Event.common?, Sieve.beyondLink, h]
  event?_happening _ := rfl
  event?_other e e' hnotice hleft := by
    cases e with
    | notice author n => contradiction
    | _ => rw [← Option.some.inj hleft]; rfl

@[simp] theorem common?_leaving (m : MethodCall) (answer : BusAnswer) :
    (BusLink.leaving m answer).common? = some (.sent (.call m)) := by
  cases answer <;> rfl

namespace Session

/-- What a session has in common with a session over the other transport. -/
def common {τ : Type} (s : Session τ) : Session Unit := s.sifted .common fun _ ↦ ()

theorem common_recording {τ : Type} (s : Session τ) (events : List Event) :
    ({ s with trace := s.trace ++ events } : Session τ).common
      = { s.common with trace := s.common.trace ++ events.filterMap Event.common? } := by
  simp only [common, sifted, List.filterMap_append]
  rfl

/-- What a report says that does not depend on the transport. -/
def Report.common (r : Report) : Report := { r with trace := r.trace.filterMap Event.common? }

end Session

end GattPeer
