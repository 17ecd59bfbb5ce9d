import GattPeer.Proofs.Session.Moves
import GattPeer.Proofs.Session.Subscription

/-!
# What a device hears

Signals reach a session as messages, and while a method call waits for its reply. What the device
merges then is what it hears of them, once for each match of its own; so the matches tell what is
merged. An operation is *calm* if it leaves the matches alone and the device merges what it hears,
which is true of every method call, however it is answered, and so of every operation that is
composed of reports and method calls.
-/

namespace GattPeer

/-- The signals that arrive while a method call waits for a reply. One that carries no batch makes
the call fail, and whatever comes after it is not looked at. -/
def BusReply.signals (r : BusReply) : List Message :=
  (r.during.map BusLink.signalOf).takeWhile fun m ↦ (BusLink.carried? m).isSome

namespace Session

variable {s s' : Session BusLink}

/-! ## Hearing signals -/

/-- What a device merges from one session to another, in which it has the same path, is what it
hears of signals. -/
def Hears (signals : List Message) (s s' : Session BusLink) : Prop :=
  s'.device.path = s.device.path ∧
    s'.merges = s.merges ++ signals.flatMap (BusLink.heard s.device s.transport.table)

theorem merges_eq_append {events : List Event} (h : s'.trace = s.trace ++ events) :
    s'.merges = s.merges ++ (events.filterMap Event.happening?).filterMap Happening.merged? := by
  rw [merges, happenings, h, List.filterMap_append, List.filterMap_append]
  rfl

theorem Hears.nil (hpath : s'.device.path = s.device.path) (hmerges : s'.merges = s.merges) :
    s.Hears [] s' :=
  ⟨hpath, hmerges.trans (List.append_nil _).symm⟩

theorem Hears.append {t : Session BusLink} {xs ys : List Message} (h : s.Hears xs s')
    (h' : s'.Hears ys t) (htable : s'.transport.table = s.transport.table) :
    s.Hears (xs ++ ys) t := by
  obtain ⟨hpath, hmerges⟩ := h
  obtain ⟨hpath', hmerges'⟩ := h'
  refine ⟨hpath'.trans hpath, ?_⟩
  rw [hmerges', hmerges, htable, BusLink.heard_eq_of_path hpath, List.append_assoc,
    List.flatMap_append]

/-- From one session to another while nothing concerns the device or the link. -/
structure Quiet (s s' : Session BusLink) : Prop where
  /-- The device has the same token. -/
  token : s'.token = s.token
  /-- The link is the same. -/
  transport : s'.transport = s.transport
  /-- The device stays where it is. -/
  path : s'.device.path = s.device.path
  /-- The device merges nothing. -/
  merges : s'.merges = s.merges

instance : IsPreorder (Session BusLink) Quiet where
  refl s := ⟨rfl, rfl, rfl, rfl⟩
  trans := by
    rintro s s' t ⟨htoken, htransport, hpath, hmerges⟩ ⟨htoken', htransport', hpath', hmerges'⟩
    exact ⟨htoken'.trans htoken, htransport'.trans htransport, hpath'.trans hpath,
      hmerges'.trans hmerges⟩

theorem Quiet.change (h : s.Quiet s') (f : BusLink → BusLink) :
    Quiet { s with transport := f s.transport } { s' with transport := f s'.transport } :=
  ⟨h.token, congrArg f h.transport, h.path, h.merges⟩

theorem quiet_record {e : Event} (h : e.happening? = none) : (Act.record e).Keeps Quiet s := by
  refine .modify ⟨rfl, rfl, rfl, ?_⟩
  rw [@merges_eq_append s _ [e] rfl, List.filterMap_cons, h]
  exact List.append_nil _

theorem quiet_report (n : Notice) : (Act.report n).Keeps Quiet s := quiet_record rfl

structure Told (signals : List Message) (s s' : Session BusLink) : Prop where
  /-- The device has the same token. -/
  token : s'.token = s.token
  /-- The link is the same. -/
  transport : s'.transport = s.transport
  /-- What the device merges is what it hears of the signals. -/
  hears : s.Hears signals s'

namespace Told

variable {xs ys : List Message}

theorem of_quiet (h : s.Quiet s') : s.Told [] s' :=
  ⟨h.token, h.transport, .nil h.path h.merges⟩

theorem append {t : Session BusLink} (h : s.Told xs s') (h' : s'.Told ys t) :
    s.Told (xs ++ ys) t :=
  ⟨h'.token.trans h.token, h'.transport.trans h.transport,
    h.hears.append h'.hears (h.transport ▸ rfl)⟩

end Told

/-- **A message is told.** -/
theorem told_handle (m : Message) (s : Session BusLink) :
    s.Told [m] ((BusLink.handle m).leaves s) := by
  obtain ⟨device, events, hleaves, hpath, hheard⟩ := BusLink.exists_leaves_handle m s
  rw [hleaves]
  refine ⟨rfl, rfl, hpath, ?_⟩
  rw [List.flatMap_singleton, ← hheard]
  exact merges_eq_append rfl

/-- **Signals are told one after the other**, until one carries no batch. -/
theorem told_signals (batches : List Batch) (s : Session BusLink) :
    s.Told ((batches.map BusLink.signalOf).takeWhile fun m ↦ (BusLink.carried? m).isSome)
      (Act.leaves (batches.forM fun batch ↦ BusLink.handle (BusLink.signalOf batch)) s) := by
  induction batches generalizing s with
  | nil => exact .of_quiet (refl_of Quiet s)
  | cons batch batches ih =>
    have htold := told_handle (BusLink.signalOf batch) s
    change Told _ s (Act.leaves (BusLink.handle (BusLink.signalOf batch) >>= fun _ ↦
      batches.forM fun batch ↦ BusLink.handle (BusLink.signalOf batch)) s)
    rw [Act.leaves, Act.bind_apply]
    rw [Act.leaves] at htold
    rw [List.map_cons, List.takeWhile_cons]
    cases hcarried : BusLink.carried? (BusLink.signalOf batch) with
    | some b =>
      rw [BusLink.handle_of_carried hcarried] at htold ⊢
      exact htold.append (ih _)
    | none =>
      obtain ⟨failure, hfailed⟩ := BusLink.handle_signalOf_of_not_carried hcarried s
      rw [hfailed]
      exact .of_quiet (refl_of Quiet s)

theorem told_answer (r : BusReply) (limit : Value) (s : Session BusLink) :
    s.Told r.signals (Act.leaves (do
      r.during.forM fun batch ↦ BusLink.handle (BusLink.signalOf batch)
      Act.ofExcept (BusLink.results limit r.answer)) s) := by
  rw [Act.leaves_bind_ofExcept]
  exact told_signals r.during s

/-! ## Method calls -/

/-- From one session to another while replies are used up: what the device merges is what it hears
of the signals that arrive before the replies. -/
def Attends (s s' : Session BusLink) : Prop :=
  ∃ used, s.transport.replies = used ++ s'.transport.replies ∧
    s.Hears (used.flatMap BusReply.signals) s'

/-- From one session to another by method calls, which leave the matches alone. -/
structure Calm (s s' : Session BusLink) : Prop where
  /-- The device has the same token. -/
  token : s'.token = s.token
  /-- The link is the same but for the replies. -/
  transport : s'.transport = { s.transport with replies := s'.transport.replies }
  /-- What the device merges is what it hears of signals. -/
  attends : s.Attends s'

theorem Attends.append_quiet {t : Session BusLink} (h : s.Attends s') (h' : s'.Quiet t) :
    s.Attends t := by
  obtain ⟨used, hused, hpath, hmerges⟩ := h
  refine ⟨used, ?_, h'.path.trans hpath, h'.merges.trans hmerges⟩
  rw [h'.transport]
  exact hused

/-- What is quiet after a change that uses up no reply is not heard. -/
theorem Quiet.attends {t : Session BusLink} (h : t.Quiet s')
    (hreplies : t.transport.replies = s.transport.replies)
    (hpath : t.device.path = s.device.path) (hmerges : t.merges = s.merges) : s.Attends s' := by
  refine ⟨[], ?_, .nil (h.path.trans hpath) (h.merges.trans hmerges)⟩
  rw [h.transport, hreplies]
  rfl

theorem Quiet.calm (h : s.Quiet s') : s.Calm s' := by
  refine ⟨h.token, ?_, h.attends rfl rfl rfl⟩
  rw [h.transport]

instance : IsPreorder (Session BusLink) Calm where
  refl s := (refl_of Quiet s).calm
  trans := by
    rintro s s' t ⟨htoken, htransport, xs, hxs, hears⟩ ⟨htoken', htransport', ys, hys, hears'⟩
    refine ⟨htoken'.trans htoken, ?_, xs ++ ys, ?_, ?_⟩
    · rw [htransport', htransport]
    · rw [hxs, hys, List.append_assoc]
    · rw [List.flatMap_append]
      refine hears.append hears' ?_
      rw [htransport]

theorem Told.subscription {signals : List Message} (h : s.Told signals s') :
    s'.subscription = s.subscription := by
  rw [Session.subscription, h.token, h.transport]
  rfl

theorem Calm.subscription (h : s.Calm s') : s'.subscription = s.subscription := by
  rw [Session.subscription, h.token, h.transport]
  rfl

theorem calm_report (n : Notice) : (Act.report n).Keeps Calm s := (quiet_report n).calm

theorem calm_nextReply_bind {α : Type} {f : BusReply → Act BusLink α}
    (hf : ∀ r (s : Session BusLink), s.Told r.signals ((f r).leaves s)) :
    (BusLink.nextReply >>= f).Keeps Calm s := by
  have hleaves : (BusLink.nextReply >>= f).leaves s
      = (f (s.transport.replies.head?.getD BusLink.usualReply)).leaves
        { s with transport := { s.transport with replies := s.transport.replies.tail } } := rfl
  obtain ⟨htoken, htransport, hears⟩ := hf (s.transport.replies.head?.getD BusLink.usualReply)
    { s with transport := { s.transport with replies := s.transport.replies.tail } }
  rw [Act.Keeps, hleaves]
  refine ⟨htoken, ?_, ?_⟩
  · rw [htransport]
  · rw [Attends, htransport]
    cases hreplies : s.transport.replies with
    | nil =>
      rw [hreplies] at hears
      exact ⟨[], rfl, hears⟩
    | cons r replies =>
      rw [hreplies] at hears
      refine ⟨[r], rfl, ?_⟩
      rw [List.flatMap_singleton]
      exact hears

/-- **A method call is calm**, whatever is answered. -/
theorem calm_call (m : MethodCall) (timeout : Value) : (BusLink.call m timeout).Keeps Calm s := by
  refine .get_bind (.bind (calm_report _) fun _ s' ↦ .ite (.throw_bind ..) ?_)
  generalize BusLink.limitFailure? _ = failure?
  cases failure? with
  | some failure =>
    exact .ite (.bind (quiet_record rfl).calm fun _ _ ↦ .throw_bind ..) (.throw_bind ..)
  | none =>
    refine .ite (.throw_bind ..) (calm_nextReply_bind fun reply s' ↦ ?_)
    have hsent : s'.Told [] ((Act.record (BusLink.leaving m reply.answer)).leaves s') :=
      .of_quiet (quiet_record (BusLink.happening?_leaving ..))
    exact hsent.append (told_answer reply _ _)

theorem running_of_call {m : MethodCall} {timeout : Value} {results : List Value}
    (h : BusLink.call m timeout s = .ok results s') : s.transport.running = true := by
  obtain ⟨config, device, token, ⟨callTimeout, running, busOpen, table, nextToken, replies⟩,
    nextCall, trace⟩ := s
  cases running with
  | true => rfl
  | false => exact nomatch h

theorem kept_calm : Kept (Calm : Session BusLink → Session BusLink → Prop) :=
  ⟨fun n _ ↦ calm_report n, fun _ ↦ BusLink.keeps_perform fun m timeout _ ↦ calm_call m timeout⟩

/-! ## Operations that leave the matches alone -/

theorem quiet_conclude (s : Session BusLink) (e : EndedCall) : s.Quiet (s.conclude e) := by
  refine ⟨rfl, rfl, rfl, ?_⟩
  rw [@merges_eq_append s (s.conclude e) _ rfl]
  exact List.append_nil _

theorem quiet_proceed (s : Session BusLink) (id : Nat) (journal : List Notice)
    (answer : Except Failure (Option Purpose)) : s.Quiet (s.proceed id journal answer) := by
  rcases proceed_cases s id journal answer with ⟨_, _, -, hproceed⟩ | ⟨_, -, -, hproceed⟩
  · rw [hproceed]
    exact quiet_conclude ..
  · rw [hproceed]
    exact ⟨rfl, rfl, rfl, rfl⟩

/-- **Starting a call is calm** if its first part is. -/
theorem calm_spawn {request : Act BusLink (Option Purpose)}
    (h : request.Keeps Calm s.requesting) : (spawn request).Keeps Calm s := by
  obtain ⟨htoken, htransport, used, hused, hpath, hmerges⟩ := h
  have hrejoining : s.Calm (s.rejoining (request.leaves s.requesting)) := by
    refine ⟨htoken, htransport, used, hused, hpath, ?_⟩
    rw [@merges_eq_append s (s.rejoining _) _ rfl, filterMap_withoutCaller]
    exact congrArg (s.merges ++ ·) hmerges
  rw [Act.Keeps, Act.leaves, spawn_eq]
  exact trans_of Calm hrejoining (quiet_proceed ..).calm

theorem quiet_changing {course : List Happening} (h : course.filterMap Happening.merged? = [])
    {device : Device} (hpath : device.path = s.device.path) (author : Author)
    (notices : List Notice) : s.Quiet (s.changing device author notices course) := by
  refine ⟨rfl, rfl, hpath, ?_⟩
  rw [merges, happenings_changing, List.filterMap_append, h]
  exact List.append_nil _

theorem quiet_reachDeadline (id : Nat) (s : Session BusLink) :
    s.Quiet ((reachDeadline id).leaves s) := by
  have hends : (s.device.endedAt id).filterMap Happening.merged? = [] :=
    List.filterMap_eq_nil_iff.mpr fun _ hh ↦
      Happening.merged?_of_belongs (Device.belongs_of_isEnd (Device.isEnd_of_mem_endedAt hh))
  rw [leaves_reachDeadline]
  refine ⟨rfl, rfl, rfl, ?_⟩
  rw [@merges_eq_append s _ _ rfl, filterMap_happening?_course, hends]
  exact List.append_nil _

theorem quiet_announce (path uuid : String) (flags : PropertyFlags) :
    (announce path uuid flags : Act BusLink Unit).Keeps Quiet s := by
  rw [Act.Keeps, leaves_announce]
  refine quiet_changing ?_ (Device.path_announce ..) ..
  cases (s.device.announce path uuid flags).2.2 with
  | ok a => rfl
  | error failure => rfl

end Session

end GattPeer
