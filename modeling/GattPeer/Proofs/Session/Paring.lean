import GattPeer.Proofs.Device.Heeding
import GattPeer.Proofs.Session.Sifting
import GattPeer.Proofs.Session.Signals
import GattPeer.Proofs.Session.Silence

/-!
# Pared sessions

A session is pared if whatever its device disregards is struck out of it: of the script of the
replies, of the calls that wait, and of the trace. The same operation does the same in a session and
in the pared one: it answers the same and leaves a pared session again. In the one, batches come on
the way that are disregarded; in the other they do not.

Both transports carry out commands in this way. The link to the bus hands the batches on as signals,
about which others may be told beside the device; what these are told of disregarded batches is
struck out as well.
-/

namespace GattPeer

open Session Act

/-- What is left of an event: nothing, if it is about something that is disregarded. A callback that
ran is left without what is invalid. -/
def Event.pared? (own : String) : Event → Option Event
  | .notice author n => if n.disregards own then none else some (.notice author n)
  | .callback run =>
    if Device.heeds own run.path then some (.callback { run with invalidated := [] }) else none
  | .happening h => some (.happening (h.pared own))
  | .sent x => some (.sent x)
  | .unanswered m => some (.unanswered m)

/-- What is left of the events of a trace is what is about nothing disregarded. -/
def TraceSieve.heeding (own : String) : TraceSieve where
  toSieve := .heeding own
  event? := Event.pared? own
  event?_notice author n := by
    cases hn : n.disregards own <;> simp [Event.pared?, Sieve.heeding, hn]
  event?_happening h := by rw [Event.pared?, Happening.pared_eq_sifted]
  event?_other e e' hnotice hleft := by
    cases e with
    | notice author n => contradiction
    | callback run =>
      rw [Event.pared?] at hleft
      split at hleft
      · rw [← Option.some.inj hleft]
        rfl
      · contradiction
    | happening h => rw [← Option.some.inj hleft]; rfl
    | sent x => rw [← Option.some.inj hleft]; rfl
    | unanswered m => rw [← Option.some.inj hleft]; rfl

@[simp] theorem filterMap_pared?_notices (own : String) (author : Author) (notices : List Notice) :
    (notices.map (Event.notice author)).filterMap (Event.pared? own)
      = (Notice.pared own notices).map (Event.notice author) :=
  (TraceSieve.heeding own).filterMap_notices author notices

@[simp] theorem filterMap_pared?_course (own : String) (course : List Happening) :
    (course.map Event.happening).filterMap (Event.pared? own)
      = (course.map (Happening.pared own)).map Event.happening := by
  rw [Happening.pared_eq_sifted]
  exact (TraceSieve.heeding own).filterMap_course course

namespace Session

variable {τ ρ σ : Type} [OperatedTransport τ ρ σ] [ScriptedTransport τ]

/-- A session without what a device at a place disregards; of the replies in the script only what a
given function leaves. -/
def pared (own : String) (change : ρ → ρ) (s : Session τ) : Session τ :=
  { s with
    device := s.device.pared own
    transport := Transport.load ((ScriptedTransport.script s.transport).map change) s.transport
    trace := s.trace.filterMap (Event.pared? own) }

/-- The second session is the first one without what the device disregards. The names of changed
properties in the batches that are to come are texts. -/
structure Pared (own : String) (change : ρ → ρ) (s s' : Session τ) : Prop where
  path : s.device.path = own
  legible : ∀ reply ∈ ScriptedTransport.script s.transport,
    ∀ batch ∈ ScriptedTransport.batches τ reply, batch.HasTextKeys
  eq : s' = s.pared own change

variable {own : String} {change : ρ → ρ} {s s' t : Session τ}

/-! ## The smallest actions -/

/-- A transport with a changed script. -/
def rescripted (change : ρ → ρ) (t : τ) : τ :=
  Transport.load ((ScriptedTransport.script t).map change) t

theorem pared_eq_sifted (s : Session τ) :
    s.pared own change = s.sifted (.heeding own) (rescripted change) := rfl

@[simp]
theorem pared_changing (s : Session τ) (d : Device) (author : Author) (notices : List Notice)
    (course : List Happening) :
    (s.changing d author notices course).pared own change = (s.pared own change).changing
      (d.pared own) author (Notice.pared own notices) (course.map (Happening.pared own)) := by
  rw [Happening.pared_eq_sifted]
  exact sifted_changing (.heeding own) (rescripted change) s d author notices course

theorem Pared.changing (h : Pared own change s s') {d d' : Device} (author : Author)
    {notices notices' : List Notice} {course course' : List Happening} (hpath : d.path = own)
    (hd : d' = d.pared own) (hnotices : notices' = Notice.pared own notices)
    (hcourse : course' = course.map (Happening.pared own)) :
    Pared own change (s.changing d author notices course)
      (s'.changing d' author notices' course') := by
  refine ⟨hpath, h.legible, ?_⟩
  rw [pared_changing, h.eq, hd, hnotices, hcourse]

theorem Pared.trace (h : Pared own change s s') {events events' : List Event}
    (hevents : events.filterMap (Event.pared? own) = events') :
    Pared own change { s with trace := s.trace ++ events }
      { s' with trace := s'.trace ++ events' } := by
  refine ⟨h.path, h.legible, ?_⟩
  rw [h.eq, ← hevents]
  simp only [pared, List.filterMap_append]

theorem Pared.record (h : Pared own change s s') {e e' : Event} (he : e.pared? own = some e') :
    Alongside (Pared own change) (Act.record e) (Act.record e') s s' := by
  refine ⟨rfl, h.trace ?_⟩
  rw [List.filterMap_cons, he, List.filterMap_nil]

theorem Pared.report (h : Pared own change s s') {n : Notice} (hn : n.disregards own = false) :
    Alongside (Pared own change) (Act.report n) (Act.report n) s s' := by
  refine h.record ?_
  rw [Event.pared?, hn]
  rfl

theorem Pared.get_bind {α : Type} {f : Session τ → Act τ α} (h : Pared own change s s')
    (hsame : f (s.pared own change) = f s) (hf : Alongside (Pared own change) (f s) (f s) s s') :
    Alongside (Pared own change) (get >>= f) (get >>= f) s s' := by
  refine .get_bind ?_
  rw [h.eq] at hf ⊢
  rwa [hsame]

theorem Pared.token (h : Pared own change s s') (token : Option Value) :
    Pared own change { s with token := token } { s' with token := token } := by
  refine ⟨h.path, h.legible, ?_⟩
  rw [h.eq]
  rfl

/-! ## Deliveries -/

theorem Pared.deliver (h : Pared own change s s') (author : Author) {batch : Batch}
    (hheeds : Device.heeds own batch.path = true) :
    Alongside (Pared own change) (.deliver author batch) (.deliver author batch.pared) s s' := by
  have hdevice : s'.device = s.device.pared own := by
    rw [h.eq]
    rfl
  have hreceive := Device.receive_pared own (d := s.device) (h.path.symm ▸ hheeds)
  rw [← hdevice] at hreceive
  cases hresult : s.device.receive batch with
  | error failure =>
    rw [hresult] at hreceive
    constructor
    · rw [Act.answers, Act.answers, deliver_apply, deliver_apply, hresult, hreceive]
      rfl
    · rw [leaves_deliver_of_error hresult, leaves_deliver_of_error hreceive]
      exact h
  | ok result =>
    obtain ⟨d, effects⟩ := result
    rw [hresult] at hreceive
    constructor
    · rw [Act.answers, Act.answers, deliver_apply, deliver_apply, hresult, hreceive]
      rfl
    · rw [leaves_deliver hresult, leaves_deliver hreceive]
      refine h.changing author ?_ rfl rfl rfl
      rcases Device.receive_eq_ok hresult with ⟨-, hd, -⟩ | ⟨-, hd, -⟩
      · rw [hd, Device.path_update, h.path]
      · rw [hd, h.path]

theorem Pared.deliver_nothing (h : Pared own change s s') (author : Author) {batch : Batch}
    (hheeds : Device.heeds own batch.path = false) (hkeys : batch.HasTextKeys) :
    Alongside (Pared own change) (.deliver author batch) (Pure.pure ⟨⟩) s s' := by
  obtain ⟨n, hreceive, hn⟩ :=
    (Device.receive_of_not_heeds own (h.path.symm ▸ hheeds)).resolve_right fun hno ↦ hno.1 hkeys
  constructor
  · have hanswers : (Act.deliver author batch).answers s = .ok ⟨⟩ := by
      rw [Act.answers, deliver_apply, hreceive]
    exact hanswers.symm
  · rw [leaves_deliver hreceive]
    -- On the other side stands the change that changes nothing.
    have hsame : s' = s'.changing s'.device author [] [] := by
      simp only [Session.changing, List.map_nil, List.append_nil]
    change Pared own change _ s'
    rw [hsame]
    refine h.changing author h.path ?_ ?_ rfl
    · rw [h.eq]
      rfl
    · simp [Notice.pared, hn]

/-! ## Calls -/

/-- **Starting a call does the same** if its first part does. -/
theorem pared_spawn {request : Act τ (Option Purpose)}
    (hrequest : ∀ {s s' : Session τ}, Pared own change s s' →
      Alongside (Pared own change) request request s s') (h : Pared own change s s') :
    Alongside (Pared own change) (spawn request) (spawn request) s s' := by
  -- The first part runs on a trace of its own, of which the journal of the call is taken.
  have hrequesting : Pared own change s.requesting s'.requesting := by
    refine ⟨h.path, h.legible, ?_⟩
    rw [h.eq]
    rfl
  obtain ⟨hanswers, hpath, hlegible, hleaves⟩ := hrequest hrequesting
  have hnumber : s'.nextCall = s.nextCall := by
    rw [h.eq]
    rfl
  have hrejoining : s'.rejoining (request.leaves s'.requesting)
      = (s.rejoining (request.leaves s.requesting)).pared own change := by
    rw [hleaves, h.eq]
    exact (sifted_rejoining (.heeding own) (rescripted change) s _).symm
  have hjournal : callerNotices (request.leaves s'.requesting).trace
      = Notice.pared own (callerNotices (request.leaves s.requesting).trace) := by
    rw [hleaves]
    exact (TraceSieve.heeding own).callerNotices_filterMap _
  constructor
  · rw [Act.answers, Act.answers, spawn_eq, spawn_eq, hnumber]
  · rw [Act.leaves, Act.leaves, spawn_eq, spawn_eq]
    have hframing := framing_proceed (s.rejoining (request.leaves s.requesting)) s.nextCall
      (callerNotices (request.leaves s.requesting).trace) (request.answers s.requesting)
    refine ⟨hframing.path.trans hpath, ?_, ?_⟩
    · rw [hframing.transport]
      exact hlegible
    · rw [hrejoining, hjournal, hanswers, hnumber]
      exact (sifted_proceed (.heeding own) (rescripted change) ..).symm

/-- **A deadline does the same.** -/
theorem Pared.reachDeadline (h : Pared own change s s') (id : Nat) :
    Alongside (Pared own change) (reachDeadline id) (reachDeadline id) s s' := by
  have hframing := framing_reachDeadline id s
  refine ⟨rfl, hframing.path.trans h.path, ?_, ?_⟩
  · rw [hframing.transport]
    exact h.legible
  · rw [h.eq]
    exact (sifted_reachDeadline (.heeding own) (rescripted change) id s).symm

end Session

/-- A transport that carries out commands in a pared session as in the session itself, with the
batches in the replies pared. Its own operations are pared as well, and some are left out. -/
class ParingTransport (τ : Type) {ρ σ : outParam Type} [OperatedTransport τ ρ σ]
    [ScriptedTransport τ] where
  /-- What is left of a reply. -/
  paredReply : String → ρ → ρ
  /-- What is left of an operation on the transport, if anything. -/
  paredOwn? : String → σ → Option σ
  /-- Commands do the same. -/
  pared_perform : ∀ {own : String} (command : Command) {s s' : Session τ},
    Pared own (paredReply own) s s' → Alongside (Pared own (paredReply own))
      (Transport.perform command) (Transport.perform command) s s'
  /-- Operations on the transport do the same. -/
  pared_carryOutOwn : ∀ {own : String} {step step' : σ} {s s' : Session τ},
    paredOwn? own step = some step' → Pared own (paredReply own) s s' →
    Alongside (Pared own (paredReply own)) (OperatedTransport.carryOutOwn step)
      (OperatedTransport.carryOutOwn step') s s'
  /-- What is left out does nothing that counts. -/
  pared_carryOutOwn_nothing : ∀ {own : String} {step : σ} {s s' : Session τ},
    paredOwn? own step = none → Pared own (paredReply own) s s' →
    Pared own (paredReply own) ((OperatedTransport.carryOutOwn step).leaves s) s'

end GattPeer
