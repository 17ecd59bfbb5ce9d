import GattPeer.Proofs.Session.Correspondence

/-!
# A device over either sink

The same operations are carried out over the link to the bus, on which no match is registered, and
over a direct transport that answers as the bus does. Each operation ends in the same way, and
leaves sessions that are beside each other; so runs do.

## The argument

A command meets a script. Two sessions are *ready* for some requests if they are beside each other,
and the replies of the direct transport correspond to those of the bus for these requests. A command
uses up the first request; if it fails, the operation ends, and what is left of the scripts does not
matter any more. An operation makes two requests at most, and makes the second one only if the first
one was granted.
-/

namespace GattPeer

open Session Act

theorem Announcement.path_of_read {path uuid : String} {flags : PropertyFlags} {a : Announcement}
    (h : Announcement.read path uuid flags = .ok a) : a.path = path := by
  obtain ⟨handle, -, h⟩ := FallibleSort.bind_eq_ok.mp h
  obtain ⟨parsed, -, h⟩ := FallibleSort.bind_eq_ok.mp h
  rw [← Except.ok.inj h]

/-- A message can carry the path of a device and of every attribute that is announced. -/
structure Device.Addressable (d : Device) : Prop where
  own : ObjectPath.isValid d.path = true
  attributes : ∀ a ∈ d.attributes.announcements, ObjectPath.isValid a.path = true

namespace Device.Addressable

variable {d : Device}

theorem pathOf? (h : d.Addressable) {number : Int} {path : String}
    (hpath : d.attributes.pathOf? number = some path) : ObjectPath.isValid path = true := by
  obtain ⟨a, hfound, rfl⟩ := Option.map_eq_some_iff.mp hpath
  exact h.attributes a (List.mem_of_find?_eq_some hfound)

theorem receive (h : d.Addressable) {batch : Batch} {next : Device} {effects : Effects}
    (hreceive : d.receive batch = .ok (next, effects)) : next.Addressable := by
  rcases receive_eq_ok hreceive with ⟨-, rfl, -⟩ | ⟨-, rfl, -⟩
  · refine ⟨(path_update ..).symm ▸ h.own, ?_⟩
    rw [announcements_update]
    exact h.attributes
  · exact h

theorem announce (h : d.Addressable) {path : String} (hpath : ObjectPath.isValid path = true)
    (uuid : String) (flags : PropertyFlags) : (d.announce path uuid flags).1.Addressable := by
  cases hread : Announcement.read path uuid flags with
  | error failure =>
    rw [(announce_of_error hread d).1]
    exact h
  | ok a =>
    rw [(announce_of_read hread d).1]
    refine ⟨h.own, fun b hb ↦ ?_⟩
    rcases AttributeTable.eq_or_mem_of_mem_store hb with rfl | hb
    · rwa [Announcement.path_of_read hread]
    · exact h.attributes b hb

end Device.Addressable

namespace Session

/-! ## Requests of an operation -/

/-- The requests that an operation makes one after the other, as long as they are granted. -/
def Step.requests (config : Setup) : Step → List Request
  | .connect _ => [⟨false, config.connectTimeout⟩]
  | .disconnect | .write .. => [⟨false, config.methodCallTimeout⟩]
  | .read _ | .readByType .. => [⟨true, config.methodCallTimeout⟩]
  | .exchange .. => [⟨false, config.methodCallTimeout⟩, ⟨true, config.methodCallTimeout⟩]
  | _ => []

/-- An operation that leaves matches alone, and that announces nothing under a path which a message
cannot carry. -/
def Step.IsCarried : Step → Prop
  | .listen | .stopListening => False
  | .announce place _ _ => ObjectPath.isValid place = true
  | _ => True

/-- The requests that are made when a session is driven. -/
def driveRequests (config : Setup) : Drive Empty → List Request
  | .device step => step.requests config
  | .transport step => nomatch step
  | .deadline _ => []

/-- What drives a session and leaves matches alone. -/
def DriveIsCarried : Drive Empty → Prop
  | .device step => step.IsCarried
  | .transport step => nomatch step
  | .deadline _ => True

theorem writeValue_apply {τ ρ : Type} [Transport τ ρ] (c : Characteristic) (data : Value)
    (s : Session τ) :
    writeValue c data s = match s.device.attributes.pathOf? c.value with
      | none => .error (.notSupported "write_without_response") s
      | some path => match data.toBytes s.config.memory with
        | .error failure => .error failure s
        | .ok bytes =>
          (discard <| Transport.perform (.writeValue path bytes s.config.methodCallTimeout)) s := by
  rw [writeValue, get_bind_apply]
  cases s.device.attributes.pathOf? c.value with
  | none => rfl
  | some path => cases data.toBytes s.config.memory <;> rfl

/-! ## Sessions beside each other -/

/-- A session over the link to the bus, without matches, and one over a direct transport have in
common all that does not depend on the transport. -/
structure Beside (config : Setup) (callTimeout : Value) (b : Session BusLink)
    (d : Session DirectSink) : Prop where
  common : d.common = b.common
  config : b.config = config
  idle : b.transport.Idle callTimeout
  addressable : b.device.Addressable

/-- Beside each other, with corresponding replies to some requests. -/
structure Ready (config : Setup) (callTimeout : Value) (requests : List Request)
    (b : Session BusLink) (d : Session DirectSink) : Prop
    extends Beside config callTimeout b d where
  replies : d.transport.replies
    = directReplies b.config.memory callTimeout requests b.transport.replies
  legible : ∀ reply ∈ b.transport.replies, ∀ batch ∈ reply.during, batch.HasTextKeys

section

variable {config : Setup} {callTimeout : Value} {requests : List Request} {r : Request}
  {b : Session BusLink} {d : Session DirectSink}

namespace Beside

variable (h : Beside config callTimeout b d)

include h

theorem device : d.device.sifted .beyondLink = b.device.sifted .beyondLink :=
  congrArg Session.device h.common

theorem settings : d.config = b.config := congrArg (fun s : Session Unit ↦ s.config) h.common

theorem path : d.device.path = b.device.path :=
  congrArg (fun s : Session Unit ↦ s.device.path) h.common

theorem address : d.device.address = b.device.address :=
  congrArg (fun s : Session Unit ↦ s.device.address) h.common

theorem attributes : d.device.attributes = b.device.attributes :=
  congrArg (fun s : Session Unit ↦ s.device.attributes) h.common

theorem after {link : BusLink} (hlink : link.Idle callTimeout) (sink : DirectSink)
    {events events' : List Event}
    (hevents : events'.filterMap Event.common? = events.filterMap Event.common?) :
    Beside config callTimeout { b with transport := link, trace := b.trace ++ events }
      { d with transport := sink, trace := d.trace ++ events' } := by
  refine ⟨?_, h.config, hlink, h.addressable⟩
  have hlinked := common_recording { b with transport := link } events
  have hsunk := common_recording { d with transport := sink } events'
  have hcommon : ({ d with transport := sink } : Session DirectSink).common
      = ({ b with transport := link } : Session BusLink).common := h.common
  exact hsunk.trans ((by rw [hcommon, hevents] : _ = _).trans hlinked.symm)

theorem report (n : Notice) :
    Alongside (Beside config callTimeout) (Act.report n) (Act.report n) b d :=
  ⟨rfl, h.after h.idle d.transport rfl⟩

theorem changing {x x' : Device} (hdevice : x'.sifted .beyondLink = x.sifted .beyondLink)
    (haddressable : x.Addressable) (author : Author) (notices : List Notice)
    {course course' : List Happening}
    (hcourse : course'.map (Happening.sifted .beyondLink)
      = course.map (Happening.sifted .beyondLink)) :
    Beside config callTimeout (b.changing x author notices course)
      (d.changing x' author notices course') := by
  refine ⟨?_, h.config, h.idle, haddressable⟩
  have hb := sifted_changing .common (fun _ ↦ ()) b x author notices course
  have hd := sifted_changing .common (fun _ ↦ ()) d x' author notices course'
  refine hd.trans (Eq.trans ?_ hb.symm)
  have hcommon : d.sifted .common (fun _ ↦ ()) = b.sifted .common fun _ ↦ () := h.common
  have hx : x'.sifted TraceSieve.common.toSieve = x.sifted TraceSieve.common.toSieve := hdevice
  have hcourse' : course'.map (Happening.sifted TraceSieve.common.toSieve)
      = course.map (Happening.sifted TraceSieve.common.toSieve) := hcourse
  rw [hcommon, hx, hcourse']

theorem deliver (batch : Batch) :
    Alongside (Beside config callTimeout) (.deliver .caller batch) (.deliver .caller batch)
      b d := by
  have hreceive : (d.device.receive batch).map (Device.siftedWith .beyondLink)
      = (b.device.receive batch).map (Device.siftedWith .beyondLink) := by
    rw [← Device.receive_sifted, ← Device.receive_sifted, h.device]
  cases hb : b.device.receive batch with
  | error failure =>
    cases hd : d.device.receive batch with
    | ok result =>
      rw [hb, hd] at hreceive
      contradiction
    | error failure' =>
      rw [hb, hd] at hreceive
      obtain rfl : failure' = failure := Except.error.inj hreceive
      exact .of_error (by rw [deliver_apply, hb]) (by rw [deliver_apply, hd]) h
  | ok result =>
    cases hd : d.device.receive batch with
    | error failure =>
      rw [hb, hd] at hreceive
      contradiction
    | ok result' =>
      rw [hb, hd] at hreceive
      obtain ⟨x, effects⟩ := result
      obtain ⟨x', effects'⟩ := result'
      obtain ⟨hdevice, heffects⟩ := Prod.mk.inj (Except.ok.inj hreceive)
      obtain ⟨notices, course⟩ := effects
      obtain ⟨notices', course'⟩ := effects'
      obtain ⟨rfl, hcourse⟩ := Effects.mk.inj heffects
      exact .of_ok (by rw [deliver_apply, hb]) (by rw [deliver_apply, hd])
        (h.changing hdevice (h.addressable.receive hb) .caller _ hcourse)

theorem announce {path : String} (hpath : ObjectPath.isValid path = true) (uuid : String)
    (flags : PropertyFlags) :
    Alongside (Beside config callTimeout) (Session.announce path uuid flags)
      (Session.announce path uuid flags) b d := by
  have hb := b.device.announce_sifted .beyondLink path uuid flags
  have hd := d.device.announce_sifted .beyondLink path uuid flags
  rw [h.device] at hd
  obtain ⟨hdevice, hrest⟩ := Prod.mk.inj (hd.symm.trans hb)
  constructor
  · rw [answers_announce, answers_announce, hrest]
  · rw [leaves_announce, leaves_announce, hrest]
    exact h.changing hdevice (h.addressable.announce hpath uuid flags) .caller _ rfl

theorem connectAnswer (owner : String) (budget : Value) (elapsed : Number)
    (answer : Except Failure Value) :
    Alongside (Beside config callTimeout) (Session.connectAnswer owner budget elapsed answer)
      (Session.connectAnswer owner budget elapsed answer) b d := by
  unfold Session.connectAnswer
  split
  · exact .bind (.ofExcept h _) fun _ _ _ h ↦ .pure h _
  · refine .ite (.bind (h.report _) fun _ _ _ h ↦ .pure h _) (.ite ?_ (.throw h _))
    exact .bind (h.report _) fun _ _ _ h ↦ .throw h _
  · exact .throw h _
  · exact .throw h _

omit h in
/-- What lies beside stays so if the rest of a call or a deadline does the same to both. -/
theorem framed {t : Session BusLink} {t' : Session DirectSink}
    (h : Beside config callTimeout t t') (hcommon : d.common = b.common) (hframing : Framing t b) :
    Beside config callTimeout b d where
  common := hcommon
  config := hframing.config.trans h.config
  idle := hframing.transport ▸ h.idle
  addressable := ⟨hframing.path ▸ h.addressable.own, hframing.attributes ▸ h.addressable.attributes⟩

theorem reachDeadline (id : Nat) :
    Alongside (Beside config callTimeout) (Session.reachDeadline id) (Session.reachDeadline id)
      b d := by
  refine ⟨rfl, h.framed ?_ (framing_reachDeadline id b)⟩
  have hb := sifted_reachDeadline .common (fun _ ↦ ()) id b
  have hd := sifted_reachDeadline .common (fun _ ↦ ()) id d
  refine hd.trans (Eq.trans ?_ hb.symm)
  exact congrArg ((Session.reachDeadline id).leaves ·) h.common

/-- **Starting a call does the same** if its first part does. -/
theorem spawn {request : Act BusLink (Option Purpose)} {request' : Act DirectSink (Option Purpose)}
    (hrequest : Alongside (Beside config callTimeout) request request' b.requesting d.requesting) :
    Alongside (Beside config callTimeout) (Session.spawn request) (Session.spawn request') b d := by
  obtain ⟨hanswers, hleaves⟩ := hrequest
  have hnumber : d.nextCall = b.nextCall := congrArg (fun s : Session Unit ↦ s.nextCall) h.common
  have hrejoining : (d.rejoining (request'.leaves d.requesting)).common
      = (b.rejoining (request.leaves b.requesting)).common := by
    have hb := sifted_rejoining .common (fun _ ↦ ()) b (request.leaves b.requesting)
    have hd := sifted_rejoining .common (fun _ ↦ ()) d (request'.leaves d.requesting)
    refine hd.trans (Eq.trans ?_ hb.symm)
    exact congrArg₂ rejoining h.common hleaves.common
  have hjournal : (callerNotices (request'.leaves d.requesting).trace).filter
        TraceSieve.common.keeps
      = (callerNotices (request.leaves b.requesting).trace).filter TraceSieve.common.keeps := by
    rw [← TraceSieve.callerNotices_filterMap, ← TraceSieve.callerNotices_filterMap]
    exact congrArg (fun s : Session Unit ↦ callerNotices s.trace) hleaves.common
  constructor
  · rw [Act.answers, Act.answers, spawn_eq, spawn_eq, hnumber]
  · rw [Act.leaves, Act.leaves, spawn_eq, spawn_eq]
    have hframing := framing_proceed (b.rejoining (request.leaves b.requesting)) b.nextCall
      (callerNotices (request.leaves b.requesting).trace) (request.answers b.requesting)
    have hbeside : Beside config callTimeout (b.rejoining (request.leaves b.requesting))
        (d.rejoining (request'.leaves d.requesting)) :=
      ⟨hrejoining, hleaves.config, hleaves.idle, hleaves.addressable⟩
    refine hbeside.framed ?_ hframing
    have hb := sifted_proceed .common (fun _ ↦ ()) (b.rejoining (request.leaves b.requesting))
      b.nextCall (callerNotices (request.leaves b.requesting).trace) (request.answers b.requesting)
    have hd := sifted_proceed .common (fun _ ↦ ()) (d.rejoining (request'.leaves d.requesting))
      d.nextCall (callerNotices (request'.leaves d.requesting).trace)
      (request'.answers d.requesting)
    refine hd.trans (Eq.trans ?_ hb.symm)
    rw [hjournal, hnumber, hanswers]
    exact congrArg (fun s : Session Unit ↦ s.proceed b.nextCall _ (request.answers b.requesting))
      hrejoining

theorem look (f : Session Unit → Reading) :
    Alongside (Beside config callTimeout) (get >>= fun s ↦ Pure.pure (f s.common))
      (get >>= fun s ↦ Pure.pure (f s.common)) b d := by
  refine .get_bind ?_
  rw [h.common]
  exact .pure h _

end Beside

/-! ## Commands -/

/-- Two actions do the same, and if they succeed, the sessions are ready for some requests. -/
structure Grants (config : Setup) (callTimeout : Value) (requests : List Request) {α : Type}
    (x : Act BusLink α) (y : Act DirectSink α) (b : Session BusLink) (d : Session DirectSink) :
    Prop where
  alongside : Alongside (Beside config callTimeout) x y b d
  ready : ∀ a, x.answers b = .ok a → Ready config callTimeout requests (x.leaves b) (y.leaves d)

namespace Grants

variable {α : Type} {x : Act BusLink α} {y : Act DirectSink α}

theorem of_ok {a : α} {t : Session BusLink} {t' : Session DirectSink} (hx : x b = .ok a t)
    (hy : y d = .ok a t') (h : Ready config callTimeout requests t t') :
    Grants config callTimeout requests x y b d := by
  refine ⟨.of_ok hx hy h.toBeside, fun _ _ ↦ ?_⟩
  rwa [Act.leaves, Act.leaves, hx, hy]

theorem of_error {failure : Failure} {t : Session BusLink} {t' : Session DirectSink}
    (hx : x b = .error failure t) (hy : y d = .error failure t')
    (h : Beside config callTimeout t t') : Grants config callTimeout requests x y b d := by
  refine ⟨.of_error hx hy h, fun a ha ↦ ?_⟩
  rw [Act.answers, hx] at ha
  contradiction

theorem congr {x' : Act BusLink α} {y' : Act DirectSink α} (hx : x b = x' b) (hy : y d = y' d)
    (h : Grants config callTimeout requests x' y' b d) :
    Grants config callTimeout requests x y b d := by
  obtain ⟨⟨hanswers, hleaves⟩, hready⟩ := h
  rw [Act.answers, Act.answers, ← hx, ← hy] at hanswers
  rw [Act.leaves, Act.leaves, ← hx, ← hy] at hleaves
  refine ⟨⟨hanswers, hleaves⟩, fun a ha ↦ ?_⟩
  rw [Act.answers, hx] at ha
  rw [Act.leaves, Act.leaves, hx, hy]
  exact hready a ha

theorem discard (h : Grants config callTimeout requests x y b d) :
    Grants config callTimeout requests (discard x) (Functor.discard y) b d := by
  have hleaves {τ : Type} (z : Act τ α) (s : Session τ) :
      (Functor.discard z).leaves s = z.leaves s := Act.leaves_return z (fun _ ↦ ()) s
  refine ⟨h.alongside.discard, fun _ ha ↦ ?_⟩
  rw [hleaves, hleaves]
  cases hanswer : x.answers b with
  | ok a => exact h.ready a hanswer
  | error failure =>
    have hanswers : (Functor.discard x).answers b = _ := Act.answers_bind x (fun _ ↦ pure ()) b
    rw [hanswers, hanswer] at ha
    contradiction

end Grants

namespace Ready

theorem recording (h : Ready config callTimeout requests b d) {events events' : List Event}
    (hevents : events'.filterMap Event.common? = events.filterMap Event.common?) :
    Ready config callTimeout requests { b with trace := b.trace ++ events }
      { d with trace := d.trace ++ events' } :=
  ⟨h.after h.idle d.transport hevents, h.replies, h.legible⟩

/-- **A command does the same over both transports**, and uses up a request. -/
theorem perform (h : Ready config callTimeout (r :: requests) b d) {c : Command} {m : MethodCall}
    (hm : c.methodCall? = some m) (hr : c.request? = some r)
    (hvalid : ObjectPath.isValid m.path = true) :
    Grants config callTimeout requests (Transport.perform c) (Transport.perform c) b d := by
  obtain ⟨hkeys, hrest⟩ := forall_mem_next h.legible BusLink.usualReply nofun
  have hbus := BusLink.perform_of_call hm hr b
  have hsunk := DirectSink.perform_of_replies h.replies rfl c
  rw [BusLink.call_of_idle h.idle hvalid hkeys] at hbus
  rw [Request.outcome_answer] at hsunk
  have hcommand : [Event.sent (.command c)].filterMap Event.common? = [.sent (.call m)] := by
    rw [List.filterMap_cons, Event.common?, Sent.asCall, hm]
    rfl
  cases hlimit : BusLink.limitFailure? (r.limit callTimeout) with
  | some failure =>
    rw [hlimit] at hbus hsunk
    exact .of_error hbus hsunk (h.after h.idle _ hcommand)
  | none =>
    rw [hlimit] at hbus hsunk
    have hcall : [m.begun, BusLink.leaving m b.transport.upcoming.answer].filterMap Event.common?
        = [.sent (.call m)] := by
      rw [List.filterMap_cons_none rfl, List.filterMap_cons_some (common?_leaving ..)]
      rfl
    have hafter : Ready config callTimeout requests (BusLink.dispatching b m)
        { d with
          transport :=
            ⟨directReplies b.config.memory callTimeout requests b.transport.replies.tail⟩
          trace := d.trace ++ [.sent (.command c)] } := by
      have hidle : BusLink.Idle callTimeout { b.transport with
          replies := b.transport.replies.tail } :=
        ⟨h.idle.running, h.idle.table, h.idle.callTimeout⟩
      exact ⟨h.after hidle _ (hcommand.trans hcall.symm), rfl, hrest⟩
    have hresults : (b.transport.replies.head?.getD BusLink.usualReply).answer
        = b.transport.upcoming.answer := rfl
    rw [hresults] at hsunk
    cases hanswer : BusLink.results (r.limit callTimeout) b.transport.upcoming.answer with
    | error failure =>
      rw [hanswer] at hbus hsunk
      exact .of_error hbus hsunk hafter.toBeside
    | ok body =>
      rw [hanswer] at hbus hsunk
      cases hreading : r.reading b.config.memory body with
      | error failure =>
        simp only [BusLink.config_dispatching, hreading, Except.bind] at hbus hsunk
        exact .of_error hbus hsunk hafter.toBeside
      | ok value =>
        simp only [BusLink.config_dispatching, hreading, Except.bind] at hbus hsunk
        exact .of_ok hbus hsunk hafter

/-! ## Operations -/

theorem readValue (h : Ready config callTimeout (⟨true, config.methodCallTimeout⟩ :: requests) b d)
    (c : Characteristic) :
    Alongside (Beside config callTimeout) (Session.readValue c) (Session.readValue c) b d := by
  refine .get_bind ?_
  rw [h.attributes, h.settings, h.config]
  cases hpath : b.device.attributes.pathOf? c.value with
  | none => exact .throw h.toBeside _
  | some path => exact (h.perform rfl rfl (h.addressable.pathOf? hpath)).alongside

theorem writeValue
    (h : Ready config callTimeout (⟨false, config.methodCallTimeout⟩ :: requests) b d)
    (c : Characteristic) (data : Value) :
    Grants config callTimeout requests (Session.writeValue c data) (Session.writeValue c data)
      b d := by
  have hb := writeValue_apply c data b
  have hd := writeValue_apply c data d
  rw [h.attributes, h.settings] at hd
  rw [h.config] at hb hd
  cases hpath : b.device.attributes.pathOf? c.value with
  | none =>
    rw [hpath] at hb hd
    exact .of_error hb hd h.toBeside
  | some path =>
    rw [hpath] at hb hd
    cases hbytes : data.toBytes config.memory with
    | error failure =>
      rw [hbytes] at hb hd
      exact .of_error hb hd h.toBeside
    | ok bytes =>
      rw [hbytes] at hb hd
      exact .congr hb hd (h.perform (c := .writeValue path bytes config.methodCallTimeout) rfl rfl
        (h.addressable.pathOf? hpath)).discard

theorem exchangeValue (h : Ready config callTimeout
      [⟨false, config.methodCallTimeout⟩, ⟨true, config.methodCallTimeout⟩] b d)
    (c : Characteristic) (data : Value) :
    Alongside (Beside config callTimeout) (Session.exchangeValue c data)
      (Session.exchangeValue c data) b d :=
  -- The value is read back only if it was written.
  .bind_of (h.writeValue c data).alongside fun a ha ↦ ((h.writeValue c data).ready a ha).readValue c

theorem readByType (h : Ready config callTimeout [⟨true, config.methodCallTimeout⟩] b d)
    (c : Characteristic) (uuid : String) :
    Alongside (Beside config callTimeout) (Session.readByType c uuid) (Session.readByType c uuid)
      b d := by
  refine .get_bind ?_
  rw [h.attributes]
  cases b.device.attributes.find? uuid c.start c.stop with
  | error failure => exact .throw_bind h.toBeside failure
  | ok found =>
    cases found with
    | none => exact .throw h.toBeside _
    | some found => exact ⟨(h.readValue found).answers, (h.readValue found).leaves⟩

theorem disconnect (h : Ready config callTimeout [⟨false, config.methodCallTimeout⟩] b d) :
    Alongside (Beside config callTimeout) Session.disconnect Session.disconnect b d := by
  refine .get_bind ?_
  rw [h.address, h.path, h.settings, h.config]
  refine .bind_of (h.report _) fun _ _ ↦ .discard ?_
  have hreported := h.recording (@rfl _
    ([Event.notice .caller (.disconnecting b.device.address)].filterMap Event.common?))
  exact (hreported.perform (c := .disconnect b.device.path config.methodCallTimeout) rfl rfl
    h.addressable.own).alongside

theorem requestConnection (h : Ready config callTimeout [⟨false, config.connectTimeout⟩] b d)
    (elapsed : Number) :
    Alongside (Beside config callTimeout) (Session.requestConnection elapsed)
      (Session.requestConnection elapsed) b d := by
  refine .get_bind ?_
  rw [h.address, h.path, h.settings, h.config]
  refine .bind_of (h.report _) fun _ _ ↦ ?_
  have hreported := h.recording (@rfl _
    ([Event.notice .caller (.connecting b.device.address)].filterMap Event.common?))
  have hgrants := hreported.perform (c := .connect b.device.path config.connectTimeout) rfl rfl
    h.addressable.own
  exact .bind (.attempt hgrants.alongside) fun answer _ _ h ↦
    h.connectAnswer _ _ elapsed answer

theorem requesting (h : Ready config callTimeout requests b d) :
    Ready config callTimeout requests b.requesting d.requesting :=
  ⟨⟨congrArg Session.requesting h.common, h.config, h.idle, h.addressable⟩, h.replies, h.legible⟩

/-- **Each operation does the same over both transports.** -/
theorem carryOut {step : Step} (h : Ready config callTimeout (step.requests config) b d)
    (hstep : step.IsCarried) :
    Alongside (Beside config callTimeout) (Session.carryOut step) (Session.carryOut step) b d := by
  have hbeside := h.toBeside
  cases step with
  | listen => exact hstep.elim
  | stopListening => exact hstep.elim
  | address => exact hbeside.look fun s ↦ .text s.device.address
  | path => exact hbeside.look fun s ↦ .text s.device.path
  | state => exact hbeside.look fun s ↦ .state s.device.state
  | isConnected => exact hbeside.look fun s ↦ .truth s.device.state.isConnected
  | title => exact hbeside.look fun s ↦ .text s.title
  | description => exact hbeside.look fun s ↦ .text s.description
  | advertisement => exact hbeside.look fun s ↦ .advertisement s.device.advertisement
  | characteristics => exact hbeside.look fun s ↦ .characteristics s.device.characteristics
  | unavailable name => exact .throw hbeside _
  | rejected failure => exact .throw hbeside _
  | disconnect => exact .bind h.disconnect fun _ _ _ h ↦ .pure h _
  | receive batch => exact .bind (hbeside.deliver batch) fun _ _ _ h ↦ .pure h _
  | announce path uuid flags =>
    exact .bind (hbeside.announce hstep uuid flags) fun _ _ _ h ↦ .pure h _
  | read c => exact .bind (h.readValue c) fun _ _ _ h ↦ .pure h _
  | write c data => exact .bind (h.writeValue c data).alongside fun _ _ _ h ↦ .pure h _
  | exchange c data => exact .bind (h.exchangeValue c data) fun _ _ _ h ↦ .pure h _
  | readByType c uuid => exact .bind (h.readByType c uuid) fun _ _ _ h ↦ .pure h _
  | connect elapsed =>
    exact .bind (hbeside.spawn (h.requesting.requestConnection elapsed)) fun _ _ _ h ↦ .pure h _
  | discover first last =>
    have hrequest : Alongside (Beside config callTimeout) (requestServices first last)
        (requestServices first last) b.requesting d.requesting := by
      have hrequesting := h.requesting.toBeside
      refine .get_bind ?_
      rw [hrequesting.address]
      exact .bind (hrequesting.report _) fun _ _ _ h ↦ .pure h _
    exact .bind (hbeside.spawn hrequest) fun _ _ _ h ↦ .pure h _

end Ready

/-! ## Runs -/

/-- What drives a session over a direct transport drives one over the bus as well. -/
def driveOverBus : Drive Empty → Drive LinkStep
  | .device step => .device step
  | .transport step => nomatch step
  | .deadline id => .deadline id

/-- **A step does the same over both transports.** -/
theorem Beside.advance (h : Beside config callTimeout b d) {replies : List BusReply}
    {drive : Drive Empty} (hdrive : DriveIsCarried drive)
    (hlegible : ∀ reply ∈ replies, ∀ batch ∈ reply.during, batch.HasTextKeys) :
    let bus := b.advance replies (driveOverBus drive)
    let direct := d.advance
      (directReplies config.memory callTimeout (driveRequests config drive) replies) drive
    Beside config callTimeout bus.1 direct.1 ∧ direct.2.common = bus.2.common := by
  intro bus direct
  have hready : Ready config callTimeout (driveRequests config drive) (b.loading replies)
      (d.loading
        (directReplies config.memory callTimeout (driveRequests config drive) replies)) := by
    rw [← h.config]
    refine ⟨⟨?_, rfl, ⟨h.idle.running, h.idle.table, h.idle.callTimeout⟩, h.addressable⟩, rfl,
      hlegible⟩
    exact congrArg (fun s : Session Unit ↦ { s with trace := [] }) h.common
  have halongside : Alongside (Beside config callTimeout) (driveOverBus drive).act drive.act
      (b.loading replies)
      (d.loading
        (directReplies config.memory callTimeout (driveRequests config drive) replies)) := by
    cases drive with
    | device step => exact hready.carryOut hdrive
    | transport step => exact nomatch step
    | deadline id => exact .bind (hready.reachDeadline id) fun _ _ _ h ↦ .pure h _
  obtain ⟨hanswers, hleaves⟩ := halongside
  have htrace := congrArg (fun s : Session Unit ↦ s.trace) hleaves.common
  have hstate := congrArg (fun s : Session Unit ↦ s.device.state) hleaves.common
  simp only [bus, direct, advance_eq]
  refine ⟨hleaves, ?_⟩
  simp only [Report.common, Report.mk.injEq]
  exact ⟨hanswers, htrace, hstate⟩

def overBus (operation : List BusReply × Drive Empty) : List BusReply × Drive LinkStep :=
  (operation.1, driveOverBus operation.2)

def overSink (callTimeout : Value) (config : Setup) (operation : List BusReply × Drive Empty) :
    List DirectReply × Drive Empty :=
  (directReplies config.memory callTimeout (driveRequests config operation.2) operation.1,
    operation.2)

/-- The batches that come while an operation waits for its answers have texts as names. -/
def AreLegible (replies : List BusReply) : Prop :=
  ∀ reply ∈ replies, ∀ batch ∈ reply.during, batch.HasTextKeys

/-- **A run does the same over both transports.** -/
theorem Beside.run (h : Beside config callTimeout b d)
    {operations : List (List BusReply × Drive Empty)}
    (hcarried : ∀ operation ∈ operations, DriveIsCarried operation.2)
    (hlegible : ∀ operation ∈ operations, AreLegible operation.1) :
    let bus := b.run (operations.map overBus)
    let direct := d.run (operations.map (overSink callTimeout config))
    Beside config callTimeout bus.1 direct.1 ∧
      direct.2.map (·.report.common) = bus.2.map (·.report.common) := by
  induction operations generalizing b d with
  | nil => exact ⟨h, rfl⟩
  | cons operation operations ih =>
    intro bus direct
    obtain ⟨hhead, hrest⟩ := List.forall_mem_cons.mp hcarried
    obtain ⟨hheadLegible, hrestLegible⟩ := List.forall_mem_cons.mp hlegible
    obtain ⟨hnext, hreport⟩ := h.advance hhead hheadLegible
    obtain ⟨hlast, hreports⟩ := ih hnext hrest hrestLegible
    refine ⟨hlast, ?_⟩
    exact congrArg₂ List.cons hreport hreports

end

/-- A command that concerns no match sends one message over a link that runs: its method call. -/
theorem departures_perform {t : Session BusLink} {c : Command} {m : MethodCall}
    (hrunning : t.transport.running = true) (hm : c.methodCall? = some m)
    (hvalid : ObjectPath.isValid m.path = true) :
    ((Transport.perform c : Act BusLink Value).leaves t).departures
      = t.departures ++ [.call m] := by
  have hrequest : ∃ r, c.request? = some r := by
    cases c with
    | addMatch path => contradiction
    | removeMatch token => contradiction
    | _ => exact ⟨_, rfl⟩
  obtain ⟨r, hr⟩ := hrequest
  have hleaves : (Transport.perform c : Act BusLink Value).leaves t
      = (BusLink.call m r.timeout).leaves t := by
    have hperform : (Transport.perform c : Act BusLink Value) t = _ :=
      BusLink.perform_of_call hm hr t
    rw [Act.leaves, Act.leaves, hperform]
    cases BusLink.call m r.timeout t with
    | error failure t' => rfl
    | ok body t' =>
      cases hreading : r.reading t'.config.memory body <;> simp only [hreading]
  rw [hleaves, BusLink.departures_call, hrunning, hvalid]
  rfl

/-- **A device works over the link to the bus as over a direct transport that answers as the bus
does.** Take a session over a link that runs, on which no match is registered, and the same session
over a direct transport. Let the same operations be carried out in both, and let the same deadlines
pass, with any replies of the bus in the one and the corresponding replies in the other; only the
operations that register a match or remove one are left out, and only paths occur that a message can
carry. Then:

* Both sessions come to the same: the device with its state, its properties, its attributes and its
  waiting calls, the settings and the subscription. Only what the link reports about itself is found
  in the one alone.
* Each operation ends in the same way, and what happens in it is the same in the same order: the
  notices, the calls that end, and what leaves, with each command as the method call that asks for
  it.
* The link still runs without a match.
* A command sends one message, whatever comes of it: the method call with its path, interface,
  member, signature and body. -/
theorem device_works_alike_over_bus_and_sink (s : Session BusLink)
    (hrunning : s.transport.running = true) (htable : s.transport.table = [])
    (haddressable : s.device.Addressable) (operations : List (List BusReply × Drive Empty))
    (hcarried : ∀ operation ∈ operations, DriveIsCarried operation.2)
    (hlegible : ∀ operation ∈ operations, AreLegible operation.1) :
    let sunk : Session DirectSink := { s with transport := ⟨[]⟩ }
    let bus := s.run (operations.map overBus)
    let direct := sunk.run (operations.map (overSink s.transport.callTimeout s.config))
    direct.1.common = bus.1.common ∧
    direct.2.map (·.report.common) = bus.2.map (·.report.common) ∧
    (bus.1.transport.running = true ∧ bus.1.transport.table = []) ∧
    ∀ (t : Session BusLink) (c : Command) (m : MethodCall), t.transport.running = true →
      c.methodCall? = some m → ObjectPath.isValid m.path = true →
      ((Transport.perform c : Act BusLink Value).leaves t).departures
        = t.departures ++ [.call m] := by
  intro sunk bus direct
  have hbeside : Beside s.config s.transport.callTimeout s sunk :=
    ⟨rfl, rfl, ⟨hrunning, htable, rfl⟩, haddressable⟩
  obtain ⟨hlast, hreports⟩ := hbeside.run hcarried hlegible
  refine ⟨hlast.common, hreports, ⟨hlast.idle.running, hlast.idle.table⟩, ?_⟩
  intro t c m hrunning hm hvalid
  exact departures_perform hrunning hm hvalid

def linked : Session BusLink :=
  let s := start (BusLink.initial (.int 30)) (some "/dev") "" (.standard 64)
  { s with
    device := { s.device with
      attributes := ⟨"", [⟨"/dev/char0002", ⟨2, .characteristic⟩, ⟨0⟩, ⟨0⟩⟩], []⟩ }
    transport := { s.transport with running := true, busOpen := true } }

/-- A call to connect that the bus refuses, since there is a connection. Then a value is written and
read back; another one cannot be written, and it is not read. -/
def asked : List (List BusReply × Drive Empty) :=
  let c : Characteristic := ⟨0, 0, 2, ⟨0⟩, ⟨0⟩⟩
  [([⟨[], .error (some BusNames.alreadyConnected) []⟩], .device (.connect (.int 0))),
    ([⟨[], .missing⟩, ⟨[], .results [.list [.int 7]]⟩], .device (.exchange c (.bytes [7]))),
    ([⟨[], .error none [.text "no"]⟩, ⟨[], .results [.bytes [7]]⟩],
      .device (.exchange c (.bytes [8])))]

/-- Over a direct transport all comes to the same. Four messages leave. -/
theorem refused_write_is_not_read_back :
    let sunk : Session DirectSink := { linked with transport := ⟨[]⟩ }
    let bus := linked.run (asked.map overBus)
    let direct := sunk.run (asked.map (overSink linked.transport.callTimeout linked.config))
    direct.2.map (·.report.common) = bus.2.map (·.report.common) ∧
    bus.2.map (·.report.departures.length) = [1, 2, 1] ∧
    direct.2.map (·.report.outcome) = [.ok (.number 0), .ok (.value (.bytes [7])),
      .error (.refused "" "no")] := by
  intro sunk bus direct
  have haddressable : linked.device.Addressable := by
    refine ⟨by decide, fun a ha ↦ ?_⟩
    rw [List.mem_singleton.mp ha]
    decide
  have hcarried : ∀ operation ∈ asked, DriveIsCarried operation.2 := by
    simp [asked, DriveIsCarried, Step.IsCarried]
  have hlegible : ∀ operation ∈ asked, AreLegible operation.1 := by
    simp [asked, AreLegible]
  obtain ⟨-, hreports, -, -⟩ :=
    device_works_alike_over_bus_and_sink linked rfl rfl haddressable asked hcarried hlegible
  refine ⟨hreports, rfl, ?_⟩
  have houtcomes := congrArg (List.map Report.outcome) hreports
  rw [List.map_map, List.map_map] at houtcomes
  exact houtcomes.trans rfl

end Session

end GattPeer
