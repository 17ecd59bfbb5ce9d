import GattPeer.Proofs.FallibleSort.Comparable
import GattPeer.Proofs.Session.Departures
import GattPeer.Proofs.Session.Dispatch

/-!
# Only the device lacks attributes

It is the device that knows the attributes, and a request for one that it does not know fails before
a transport is asked. A transport may fail in many ways: because it does not run, because nobody can
wait for the answer, because the answer is a refusal or cannot be read as bytes, or because of what
arrives meanwhile. But it never says of its own accord that no attribute is known; it passes such a
failure on if its surroundings answered by it.
-/

namespace GattPeer

/-- Whether a failure says that no attribute is known for an operation. -/
def Failure.isUnsupported : Failure → Bool
  | .notSupported _ => true
  | _ => false

/-- A failure says something else, or it is the given one. -/
def Failure.StemsFrom (given : Option Failure) (failure : Failure) : Prop :=
  failure.isUnsupported = true → given = some failure

theorem Failure.stemsFrom_of_other {failure : Failure} (h : failure.isUnsupported = false)
    (given : Option Failure) : failure.StemsFrom given :=
  fun hunsupported ↦ nomatch h.symm.trans hunsupported

theorem Failure.IsUnordered.isUnsupported {failure : Failure} (h : failure.IsUnordered) :
    failure.isUnsupported = false := by
  obtain ⟨left, right, rfl⟩ := h
  rfl

@[simp] theorem Failure.isUnsupported_expired (budget : Number) :
    (Failure.expired budget).isUnsupported = false := by
  rw [expired]
  split <;> rfl

/-! ## How an action fails -/

namespace Act

variable {τ α β : Type} {s s' : Session τ} {E : Failure → Prop}

/-- If an action fails in a session, then by a failure of a kind. -/
def FailsBy (E : Failure → Prop) (act : Act τ α) (s : Session τ) : Prop :=
  GattPeer.FailsBy E (act.answers s)

theorem FailsBy.of_ok {act : Act τ α} {a : α} (h : act s = .ok a s') : FailsBy E act s := by
  rw [FailsBy, answers, h]
  exact failsBy_ok a

theorem FailsBy.pure (a : α) : FailsBy E (pure a) s := failsBy_ok a

theorem FailsBy.throw {failure : Failure} (h : E failure) :
    FailsBy E (throw failure : Act τ α) s :=
  failsBy_error h

theorem FailsBy.ofExcept {e : Except Failure α} (h : GattPeer.FailsBy E e) :
    FailsBy E (ofExcept e : Act τ α) s := by
  cases e with
  | ok a => exact .pure a
  | error failure => exact .throw (h failure rfl)

/-- What comes after an action that is known to succeed decides how both fail. -/
theorem FailsBy.bind_of_ok {x : Act τ α} {f : α → Act τ β} {a : α} (hx : x s = .ok a s')
    (hf : FailsBy E (f a) s') : FailsBy E (x >>= f) s := by
  rw [FailsBy, answers, Act.bind_of_ok hx]
  exact hf

theorem FailsBy.bind {x : Act τ α} {f : α → Act τ β} (hx : FailsBy E x s)
    (hf : ∀ a s', FailsBy E (f a) s') : FailsBy E (x >>= f) s := by
  rw [FailsBy, answers] at hx
  cases hresult : x s with
  | ok a s' => exact .bind_of_ok hresult (hf a s')
  | error failure s' =>
    rw [hresult] at hx
    rw [FailsBy, answers, Act.bind_of_error hresult]
    exact failsBy_error (hx failure rfl)

theorem FailsBy.discard {x : Act τ α} (hx : FailsBy E x s) : FailsBy E (discard x) s :=
  .bind hx fun _ _ ↦ .pure _

theorem FailsBy.forM {xs : List α} {f : α → Act τ PUnit} (hf : ∀ a s', FailsBy E (f a) s') :
    FailsBy E (xs.forM f) s := by
  induction xs generalizing s with
  | nil => exact .pure _
  | cons x xs ih => exact .bind (hf x s) fun _ _ ↦ ih

theorem FailsBy.mono {act : Act τ α} {E' : Failure → Prop} (hact : FailsBy E act s)
    (h : ∀ failure, E failure → E' failure) : FailsBy E' act s :=
  GattPeer.FailsBy.mono hact h

end Act

/-! ## Parts of both transports -/

theorem failsBy_mapM {ε α β : Type} {E : ε → Prop} {f : α → Except ε β}
    (h : ∀ a, FailsBy E (f a)) (xs : List α) : FailsBy E (xs.mapM f) := by
  induction xs with
  | nil => exact failsBy_ok _
  | cons x xs ih =>
    rw [List.mapM_cons]
    exact (h x).bind fun _ _ ↦ ih.bind fun _ _ ↦ failsBy_pure _

theorem Value.failsBy_toBytes (memory : Nat) (value : Value) :
    FailsBy (·.isUnsupported = false) (value.toBytes memory) := by
  have hbyte (item : Value) : FailsBy (·.isUnsupported = false) item.toByte := by
    unfold toByte
    split
    · split
      · exact failsBy_ok _
      · exact failsBy_error rfl
    · exact failsBy_error rfl
  have hzero (n : Int) : FailsBy (·.isUnsupported = false) (zeroBytes memory n) := by
    unfold zeroBytes
    repeat' split
    · exact failsBy_error rfl
    · exact failsBy_error rfl
    · exact failsBy_error rfl
    · exact failsBy_error rfl
    · exact failsBy_ok _
  unfold toBytes
  split
  · exact failsBy_ok _
  · exact failsBy_ok _
  · exact failsBy_mapM hbyte _
  · exact failsBy_mapM hbyte _
  · exact failsBy_mapM (fun _ ↦ hbyte _) _
  · exact failsBy_mapM (fun _ ↦ hbyte _) _
  · exact hzero _
  · exact hzero _
  · exact failsBy_error rfl
  · exact failsBy_error rfl

theorem Device.failsBy_receive (d : Device) (batch : Batch) :
    FailsBy Failure.IsUnordered (d.receive batch) := by
  unfold receive
  split
  · exact failsBy_ok _
  · exact (Value.failsBy_sortKeys _).map _
  · exact failsBy_ok _

theorem Session.failsBy_deliver {τ : Type} (author : Author) (batch : Batch) (s : Session τ) :
    (Act.deliver author batch).FailsBy Failure.IsUnordered s := by
  rw [Act.FailsBy, Act.answers, deliver_apply]
  have hreceive := s.device.failsBy_receive batch
  cases hresult : s.device.receive batch with
  | ok result => exact failsBy_ok _
  | error failure => exact failsBy_error (hreceive failure hresult)

open Session

/-! ## The property -/

/-- A transport that never says of its own accord that no attribute is known. -/
class SupportingTransport (τ : Type) {ρ σ : outParam Type} [OperatedTransport τ ρ σ] where
  /-- The failure by which a reply answers, if it does. -/
  failure? : ρ → Option Failure
  /-- A command that concerns no match does not say so, unless a reply did. -/
  stems_perform : ∀ (command : Command) (replies : List ρ) (s : Session τ),
    command.concernsMatch = false →
    (Transport.perform command).FailsBy
      (fun failure ↦ failure.isUnsupported = true →
        ∃ reply ∈ replies, failure? reply = some failure) (s.loading replies)

/-- The next reply of a script, or the usual one, which does not answer by a failure. -/
theorem exists_reply_of_upcoming {ρ : Type} {usual : ρ} {failure? : ρ → Option Failure}
    (husual : failure? usual = none) {replies : List ρ} {failure : Failure}
    (h : failure.StemsFrom (failure? (replies.head?.getD usual)))
    (hunsupported : failure.isUnsupported = true) :
    ∃ reply ∈ replies, failure? reply = some failure := by
  have hreply := h hunsupported
  cases replies with
  | nil => exact nomatch husual.symm.trans hreply
  | cons reply replies => exact ⟨reply, List.mem_cons_self, hreply⟩

/-! ## The direct transport -/

namespace DirectSink

def failure? (reply : DirectReply) : Option Failure :=
  match reply.answer with
  | .value _ => none
  | .failure failure => some failure

theorem failsBy_perform (command : Command) (s : Session DirectSink) :
    (perform command).FailsBy
      (Failure.StemsFrom (failure? (s.transport.replies.head?.getD usualReply))) s := by
  have hanswer (reply : DirectReply) (s' : Session DirectSink) :
      (match reply.answer with
        | .value v => pure (v.getD (usualAnswer command))
        | .failure f => throw f : Act DirectSink Value).FailsBy
          (Failure.StemsFrom (failure? reply)) s' := by
    rw [failure?]
    cases reply.answer with
    | value v => exact .pure _
    | failure f => exact .throw fun _ ↦ rfl
  refine .bind_of_ok rfl (.bind_of_ok rfl (.bind (.forM fun batch s' ↦ ?_) fun _ s' ↦ ?_))
  · exact (failsBy_deliver .caller batch s').mono
      fun _ h ↦ Failure.stemsFrom_of_other h.isUnsupported _
  · exact hanswer _ s'

instance : SupportingTransport DirectSink where
  failure? := failure?
  stems_perform command replies s _ := (failsBy_perform command (s.loading replies)).mono
    fun _ h ↦ exists_reply_of_upcoming rfl h

end DirectSink

/-! ## The link to the bus -/

namespace BusLink

def failure? (reply : BusReply) : Option Failure :=
  match reply.answer with
  | .failure failure => some failure
  | _ => none

variable {s : Session BusLink}

@[simp] theorem isUnsupported_expired (limit : Value) : (expired limit).isUnsupported = false := by
  unfold expired
  split <;> exact Failure.isUnsupported_expired _

theorem isUnsupported_of_limitFailure {limit : Value} {failure : Failure}
    (h : limitFailure? limit = some failure) : failure.isUnsupported = false := by
  unfold limitFailure? at h
  split at h
  · exact nomatch h
  · split at h
    · rw [← Option.some.inj h]
      rfl
    · split at h
      · rw [← Option.some.inj h]
        rfl
      · split at h
        · exact nomatch h
        · rw [← Option.some.inj h]
          exact isUnsupported_expired limit

theorem failsBy_batch (path : String) (changed invalidated : Value) :
    FailsBy (·.isUnsupported = false) (batch path changed invalidated) := by
  by_cases hreadable : Readable changed invalidated
  · obtain ⟨b, hb⟩ := exists_batch_of_readable hreadable path
    rw [hb]
    exact failsBy_ok b
  · obtain ⟨failure, hfailure, hkind⟩ := exists_failure_of_not_readable hreadable path
    rw [hfailure]
    rcases hkind with rfl | ⟨kind, rfl⟩ | rfl
    · exact failsBy_error rfl
    · exact failsBy_error rfl
    · exact failsBy_error rfl

theorem failsBy_handle (m : Message) : (handle m).FailsBy (·.isUnsupported = false) s := by
  rw [handle]
  split
  · split
    · exact .of_ok rfl
    · refine .bind (.ofExcept (failsBy_batch _ _ _)) fun batch s' ↦ ?_
      exact .bind_of_ok rfl (.of_ok (forM_tell_eq ..))
  · exact .pure _

theorem failsBy_results (limit : Value) (reply : BusReply) :
    FailsBy (Failure.StemsFrom (failure? reply)) (results limit reply.answer) := by
  rw [failure?]
  cases reply.answer with
  | results body => exact failsBy_ok _
  | error name body => exact failsBy_error (Failure.stemsFrom_of_other rfl _)
  | missing => exact failsBy_ok _
  | failure f => exact failsBy_error fun _ ↦ rfl
  | never => exact failsBy_error (Failure.stemsFrom_of_other (isUnsupported_expired limit) _)

/-- **A method call fails by its reply**, or for reasons of its own. -/
theorem failsBy_call (m : MethodCall) (timeout : Value) (s : Session BusLink) :
    (call m timeout).FailsBy (Failure.StemsFrom (failure? s.transport.upcoming)) s := by
  rw [Act.FailsBy, Act.answers]
  cases hrunning : s.transport.running with
  | false =>
    rw [call_of_not_running hrunning]
    exact failsBy_error (Failure.stemsFrom_of_other rfl _)
  | true =>
    cases hlimit : limitFailure? (s.transport.limitOf timeout) with
    | some failure =>
      rw [call_of_limitFailure hrunning hlimit]
      exact failsBy_error
        (Failure.stemsFrom_of_other (isUnsupported_of_limitFailure hlimit) _)
    | none =>
      cases hvalid : ObjectPath.isValid m.path with
      | false =>
        rw [call_of_not_valid hrunning hlimit hvalid]
        exact failsBy_error (Failure.stemsFrom_of_other rfl _)
      | true =>
        have hawaiting : (awaiting (s.transport.limitOf timeout) s.transport.upcoming).FailsBy
            (Failure.StemsFrom (failure? s.transport.upcoming)) (dispatching s m) := by
          refine .bind (.forM fun batch s' ↦ ?_) fun _ s' ↦ .ofExcept (failsBy_results _ _)
          exact (failsBy_handle _).mono fun _ h ↦ Failure.stemsFrom_of_other h _
        rw [call_of_valid hrunning hlimit hvalid]
        exact hawaiting

theorem failsBy_perform {command : Command} (h : command.concernsMatch = false)
    (s : Session BusLink) :
    (perform command).FailsBy (Failure.StemsFrom (failure? s.transport.upcoming)) s := by
  cases command with
  | connect path timeout => exact .bind (.discard (failsBy_call _ _ _)) fun _ _ ↦ .pure _
  | disconnect path timeout => exact .bind (.discard (failsBy_call _ _ _)) fun _ _ ↦ .pure _
  | readValue path timeout =>
    refine .bind (.bind (failsBy_call _ _ _) fun body s' ↦ ?_) fun _ _ ↦ .pure _
    cases body with
    | nil => exact .pure _
    | cons value values =>
      exact .bind_of_ok rfl (.ofExcept ((value.failsBy_toBytes _).mono fun _ h ↦
        Failure.stemsFrom_of_other h _))
  | writeValue path data timeout => exact .bind (.discard (failsBy_call _ _ _)) fun _ _ ↦ .pure _
  | addMatch path => exact nomatch h
  | removeMatch token => exact nomatch h

instance : SupportingTransport BusLink where
  failure? := failure?
  stems_perform _ _ s h := (failsBy_perform h (s.loading _)).mono
    fun _ h ↦ exists_reply_of_upcoming rfl h

end BusLink

end GattPeer
