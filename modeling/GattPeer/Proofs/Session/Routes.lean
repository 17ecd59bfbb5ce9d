import GattPeer.Proofs.Device.Malformed
import GattPeer.Proofs.Session.Dispatch
import GattPeer.Proofs.Session.Listening

/-!
# Routes of a batch

A batch of property changes reaches a device on two routes: as a signal of the bus, or directly from
the caller. On its way over the bus it is copied, loses one variant layer of each value, is compared
with the place that the device listens for, and a failure of the device is swallowed. The device
cannot tell: it is left the same, and the same calls end.

What a signal says about its interface is not looked at on either route. Which device it is for
follows from its path, and what it does there from the names of the changed properties.
-/

namespace GattPeer

namespace Device

/-- What happens to a device that is told a batch. -/
def hears (d : Device) (batch : Batch) : List Happening :=
  (d.reaction batch).2.filterMap Event.happening?

theorem reaction_of_subject_ne {d : Device} {batch : Batch}
    (h : d.subject batch.path ≠ .device) : (d.reaction batch).1 = d ∧ d.hears batch = [] := by
  rw [hears, reaction]
  cases hreceive : d.receive batch with
  | error failure => exact ⟨rfl, rfl⟩
  | ok result =>
    rw [List.filterMap_append, Session.filterMap_happening?_notices,
      Session.filterMap_happening?_course, List.nil_append]
    rcases receive_eq_ok hreceive with ⟨hsubject, -, -⟩ | ⟨-, hdevice, hcourse⟩
    · exact absurd hsubject h
    · exact ⟨hdevice, hcourse⟩

theorem reaction_of_subject_eq {d : Device} {batch : Batch} (h : d.subject batch.path = .device) :
    (d.reaction batch).1 = (d.update batch.changes).1 ∧
      d.hears batch = (d.update batch.changes).2.course := by
  rw [hears, reaction]
  cases hreceive : d.receive batch with
  | error failure => exact absurd h (subject_ne_of_receive_eq_error hreceive)
  | ok result =>
    rw [List.filterMap_append, Session.filterMap_happening?_notices,
      Session.filterMap_happening?_course, List.nil_append]
    rcases receive_eq_ok hreceive with ⟨-, hdevice, hcourse⟩ | ⟨hsubject, -, -⟩
    · exact ⟨hdevice, hcourse⟩
    · exact absurd h hsubject

theorem reaction_of_alike {batch batch' : Batch} (hpath : batch.path = batch'.path)
    (halike : Changes.Alike batch.changes batch'.changes) (d : Device) :
    (d.reaction batch).1 = (d.reaction batch').1 ∧
      (d.hears batch).filterMap Happening.ended? = (d.hears batch').filterMap Happening.ended? := by
  by_cases hsubject : d.subject batch.path = .device
  · obtain ⟨hdevice, hheard⟩ := reaction_of_subject_eq hsubject
    obtain ⟨hdevice', hheard'⟩ := reaction_of_subject_eq (hpath ▸ hsubject)
    obtain ⟨hsame, rest, hcourse, hcourse'⟩ := update_of_alike halike d
    refine ⟨by rw [hdevice, hdevice', hsame], ?_⟩
    rw [hheard, hheard', hcourse, hcourse']
    rfl
  · obtain ⟨hdevice, hheard⟩ := reaction_of_subject_ne hsubject
    obtain ⟨hdevice', hheard'⟩ := reaction_of_subject_ne (hpath ▸ hsubject)
    exact ⟨hdevice.trans hdevice'.symm, by rw [hheard, hheard']⟩

theorem update_of_no_truth {changes : Changes} (hconnected : changes.truth? "Connected" = none)
    (hresolved : changes.truth? "ServicesResolved" = none) (d : Device) :
    (d.update changes).1 = d.merging changes ∧
      (d.update changes).2.course = [.merged changes] := by
  obtain ⟨hdevice, hcourse⟩ := update_eq_driven d changes
  rw [hconnected, hresolved] at hdevice hcourse
  exact ⟨hdevice, hcourse⟩

end Device

namespace Session

/-! ## What a report says -/

theorem Report.ended_eq (r : Report) :
    r.ended = (r.happenings.filterMap Happening.ended?).mergeSort fun a b ↦ a.id ≤ b.id := rfl

theorem Report.ended_eq_nil {r : Report} (h : ∀ x ∈ r.happenings, x.ended? = none) :
    r.ended = [] := by
  rw [ended_eq, List.filterMap_eq_nil_iff.mpr h, List.mergeSort_nil]

theorem waitingCalls_eq_of_device {τ : Type} {s s' : Session τ}
    (h : s'.device.monitor = s.device.monitor) : s'.waitingCalls = s.waitingCalls := by
  rw [waitingCalls, waitingCalls, h]

theorem advance_receive {τ ρ σ : Type} [OperatedTransport τ ρ σ] (s : Session τ)
    (replies : List ρ) (batch : Batch) :
    let direct := s.advance replies (.device (.receive batch) : Drive σ)
    direct.1.device = (s.device.reaction batch).1 ∧
      direct.2.happenings = s.device.hears batch := by
  intro direct
  have hdeliver := deliver_apply .caller batch (s.loading replies)
  have hloading : (s.loading replies).device = s.device := rfl
  rw [hloading] at hdeliver
  rw [Device.hears, Device.reaction]
  cases hreceive : s.device.receive batch with
  | error failure =>
    rw [hreceive] at hdeliver
    have hdirect : direct = _ := advance_of_error (Act.bind_of_error hdeliver _)
    rw [hdirect]
    exact ⟨rfl, rfl⟩
  | ok result =>
    rw [hreceive] at hdeliver
    have hdirect : direct = _ := advance_of_ok (Act.bind_of_ok hdeliver _)
    rw [hdirect]
    refine ⟨rfl, ?_⟩
    rw [List.filterMap_append, filterMap_happening?_notices, filterMap_happening?_course]
    exact happenings_changing (s.loading replies) result.1 .caller result.2.notices result.2.course

variable {s : Session BusLink} {m : Message} {batch : Batch}

/-- A device that listens, and is orderly, makes of a signal what it makes of the batch in it. -/
theorem advance_message_of_own (h : s.Orderly) (hown : ∃ x ∈ s.transport.table, x.isOwn = true)
    (hcarried : BusLink.carried? m = some batch) (replies : List BusReply) :
    let told := s.advance replies (.transport (.message m))
    told.1.device = (s.device.reaction batch).1 ∧
      told.2.happenings = s.device.hears batch := by
  intro told
  obtain ⟨x, hx, hisOwn⟩ := hown
  have hmem : x ∈ s.subscription.own := List.mem_filter.mpr ⟨hx, hisOwn⟩
  have hone : s.subscription.own.length = 1 :=
    Nat.le_antisymm (Subscription.Orderly.length_own_le_one h) (List.length_pos_of_mem hmem)
  obtain ⟨own, hsingle⟩ := List.length_eq_one_iff.mp hone
  obtain rfl : x = own := List.mem_singleton.mp (hsingle ▸ hmem)
  obtain ⟨-, hplace⟩ := h.own x hx hisOwn
  cases hwithin : ObjectPath.isWithin m.path x.path with
  | true =>
    obtain ⟨hdevice, before, after, htrace, hquiet⟩ :=
      told_of_own_eq hcarried hsingle hwithin replies
    obtain ⟨hbefore, hafter⟩ := List.forall_mem_append.mp hquiet
    refine ⟨hdevice, ?_⟩
    rw [Report.happenings, htrace, List.filterMap_append, List.filterMap_append,
      List.filterMap_eq_nil_iff.mpr hbefore, List.filterMap_eq_nil_iff.mpr hafter, List.nil_append,
      List.append_nil]
    rfl
  | false =>
    -- The link tells nobody, and the device would have found that the batch is for another one.
    have hforeign : s.device.subject batch.path ≠ .device := by
      rw [BusLink.path_of_carried hcarried, Device.subject, ← hplace, hwithin]
      simp
    have hnone : (s.transport.listeners m.path).filter Listener.isDevice = [] := by
      refine List.eq_nil_of_length_eq_zero ?_
      have htable : s.transport.table.filter Match.isOwn = [x] := hsingle
      rw [BusLink.length_filter_listeners, htable, List.filter_cons_of_neg (by simp [hwithin])]
      rfl
    obtain ⟨hdevice, htrace⟩ := advance_message hcarried s replies
    obtain ⟨hsame, hquiet⟩ := Listener.toldAll_of_no_device hnone batch s.device
    obtain ⟨hreaction, hheard⟩ := Device.reaction_of_subject_ne hforeign
    refine ⟨hdevice.trans (hsame.trans hreaction.symm), ?_⟩
    rw [hheard, Report.happenings, htrace]
    exact List.filterMap_eq_nil_iff.mpr hquiet

/-! ## The same on both routes -/

theorem carried_of_nodup {interfaceName changed invalidated : Value} {changes : Changes}
    {keys : List String} {names : List Value} (hsignal : BusLink.isPropertySignal m = true)
    (hbody : BusLink.items? m.body = some [interfaceName, changed, invalidated])
    (hchanged : changed.entries? = some changes)
    (hkeys : changes.map (·.1) = keys.map Value.text) (hnodup : keys.Nodup)
    (hinvalidated : BusLink.items? invalidated = some names) :
    BusLink.carried? m
      = some ⟨m.path, changes.map fun entry ↦ (entry.1, entry.2.unwrapOnce), names⟩ := by
  obtain ⟨hstorable, hdistinct⟩ := Value.distinct_of_texts hkeys hnodup
  exact BusLink.WellFormed.carried
    ⟨hsignal, ⟨_, _, _, hbody, hchanged, hinvalidated⟩, hstorable, hdistinct⟩

/-- **A signal does what the direct call does.** After any run over the bus in which the device is
listening, let a signal arrive on any path, with changes under distinct texts. The device is left
the same as if the batch had been given to it directly, with all that is known about it and with the
same calls waiting, and the same calls end in the same way. -/
theorem signal_acts_as_direct_call (callTimeout : Value) (path : Option String) (address : String)
    (config : Setup) (drives : List (List BusReply × Drive LinkStep)) (m : Message)
    (interfaceName changed invalidated : Value) (changes : Changes) (keys : List String)
    (names : List Value) (replies : List BusReply)
    (hsignal : BusLink.isPropertySignal m = true)
    (hbody : BusLink.items? m.body = some [interfaceName, changed, invalidated])
    (hchanged : changed.entries? = some changes)
    (hkeys : changes.map (·.1) = keys.map Value.text) (hnodup : keys.Nodup)
    (hinvalidated : BusLink.items? invalidated = some names) :
    let s := ((start (BusLink.initial callTimeout) path address config).run drives).1
    (∃ x ∈ s.transport.table, x.isOwn = true) →
    let told := s.advance replies (.transport (.message m))
    let direct := s.advance replies (.device (.receive ⟨m.path, changes, names⟩))
    told.1.device = direct.1.device ∧ told.2.ended = direct.2.ended := by
  intro s hown told direct
  have hs : s.Orderly := (orderly_start callTimeout path address config).run drives
  have hcarried := carried_of_nodup hsignal hbody hchanged hkeys hnodup hinvalidated
  obtain ⟨htold, hheard⟩ := advance_message_of_own hs hown hcarried replies
  obtain ⟨hdirect, hheard'⟩ := advance_receive s replies ⟨m.path, changes, names⟩
  let arriving : Batch := ⟨m.path, changes.map fun entry ↦ (entry.1, entry.2.unwrapOnce), names⟩
  let given : Batch := ⟨m.path, changes, names⟩
  have hpath : arriving.path = given.path := rfl
  have halike : Changes.Alike arriving.changes given.changes := Changes.alike_unwrapOnce changes
  obtain ⟨hdevice, hended⟩ := Device.reaction_of_alike hpath halike s.device
  refine ⟨?_, ?_⟩
  · rw [htold, hdirect, hdevice]
  · rw [Report.ended_eq, Report.ended_eq, hheard, hheard', hended]

/-- The name of a device arrives in two variant layers, while a call to connect waits. -/
theorem wrapped_signal_acts_as_direct_call :
    let drives := [([], .transport (.start true none)), ([], .device .listen),
      ([], .device (.connect (.int 0)))]
    let s := ((start (BusLink.initial (.int 30)) (some "/dev") "" (.standard 64)).run drives).1
    let changes : Changes :=
      [("Name", .variant "v" (.variant "s" "Sensor")), ("Connected", .variant "b" (.bool true))]
    let told := s.advance []
      (.transport (.message (BusLink.signalOf ⟨"/dev", changes, ["Alias"]⟩)))
    let direct := s.advance [] (.device (.receive ⟨"/dev", changes, ["Alias"]⟩))
    told.1.device = direct.1.device ∧ told.2.ended = direct.2.ended ∧
      direct.1.device.advertisement.localName = some "Sensor" ∧
      s.waitingCalls = [0] ∧ direct.1.waitingCalls = [] := by
  intro drives s changes told direct
  have hown : ∃ x ∈ s.transport.table, x.isOwn = true := by decide +kernel
  obtain ⟨hdevice, hended⟩ := signal_acts_as_direct_call (.int 30) (some "/dev") ""
    (.standard 64) drives (BusLink.signalOf ⟨"/dev", changes, ["Alias"]⟩) _ _ _ changes
    ["Name", "Connected"] ["Alias"] [] rfl rfl rfl rfl (by decide) rfl hown
  refine ⟨hdevice, hended, ?_, ?_, ?_⟩
  · decide +kernel
  · decide +kernel
  · decide +kernel

/-! ## What drives the device -/

theorem advance_message_cases (h : s.Orderly) (hcarried : BusLink.carried? m = some batch)
    (replies : List BusReply) :
    let told := s.advance replies (.transport (.message m))
    (told.1.device = s.device ∧ told.2.happenings = []) ∨
    (s.device.subject m.path = .device ∧ told.1.device = (s.device.update batch.changes).1 ∧
      told.2.happenings = (s.device.update batch.changes).2.course) := by
  intro told
  by_cases hown : ∃ x ∈ s.transport.table, x.isOwn = true
  · obtain ⟨hdevice, hheard⟩ := advance_message_of_own h hown hcarried replies
    by_cases hsubject : s.device.subject batch.path = .device
    · obtain ⟨hreaction, hcourse⟩ := Device.reaction_of_subject_eq hsubject
      rw [BusLink.path_of_carried hcarried] at hsubject
      exact .inr ⟨hsubject, hdevice.trans hreaction, hheard.trans hcourse⟩
    · obtain ⟨hreaction, hcourse⟩ := Device.reaction_of_subject_ne hsubject
      exact .inl ⟨hdevice.trans hreaction, hheard.trans hcourse⟩
  · refine .inl (untold_of_own_eq_nil hcarried ?_ replies)
    refine List.filter_eq_nil_iff.mpr fun x hx hisOwn ↦ hown ⟨x, hx, hisOwn⟩

/-- The first item in the body of a signal is not looked at. -/
theorem handle_of_interface {interfaceName changed invalidated : Value}
    (hbody : BusLink.items? m.body = some [interfaceName, changed, invalidated]) (other : Value) :
    BusLink.handle { m with body := .list [other, changed, invalidated] } = BusLink.handle m := by
  have hparts : BusLink.parts? m.body = some (changed, invalidated) := by
    rw [BusLink.parts?, hbody]
  have hsignal : BusLink.isPropertySignal { m with body := .list [other, changed, invalidated] }
      = BusLink.isPropertySignal m := rfl
  have hother :
      BusLink.parts? (.list [other, changed, invalidated]) = some (changed, invalidated) := rfl
  simp only [BusLink.handle, hsignal, hparts, hother]

/-- **A signal drives the device by its path and by the names in it**, and its interface does not
matter. After any run over the bus, a well-formed signal does the same whatever interface it names.
It does nothing to the device if it is for another one or about an attribute. Without a truth value
for the connection or for the resolution of the services, it leaves the connection state and the
published characteristics, and it ends no call. Without the four advertised properties, it leaves
them, except that it is counted. -/
theorem signals_drive_by_path_and_names (callTimeout : Value) (path : Option String)
    (address : String) (config : Setup) (drives : List (List BusReply × Drive LinkStep))
    (m : Message) (interfaceName changed invalidated : Value) (batch : Batch)
    (replies : List BusReply)
    (hbody : BusLink.items? m.body = some [interfaceName, changed, invalidated])
    (hcarried : BusLink.carried? m = some batch) :
    let s := ((start (BusLink.initial callTimeout) path address config).run drives).1
    let told := s.advance replies (.transport (.message m))
    (∀ other, s.advance replies
      (.transport (.message { m with body := .list [other, changed, invalidated] })) = told) ∧
    (s.device.subject m.path ≠ .device → told.1.device = s.device ∧ told.2.ended = []) ∧
    (batch.changes.truth? "Connected" = none → batch.changes.truth? "ServicesResolved" = none →
      told.1.device.state = s.device.state ∧
      told.1.device.characteristics = s.device.characteristics ∧
      told.1.waitingCalls = s.waitingCalls ∧ told.2.ended = []) ∧
    ((∀ name ∈ ["Name", "ManufacturerData", "AddressType", "RSSI"],
        batch.changes.value? name = none) →
      { told.1.device.advertisement with updates := s.device.advertisement.updates }
        = s.device.advertisement) := by
  intro s told
  have hs : s.Orderly := (orderly_start callTimeout path address config).run drives
  refine ⟨fun other ↦ ?_, fun hsubject ↦ ?_, fun hconnected hresolved ↦ ?_, fun hnames ↦ ?_⟩
  · have hact : (carryOutLink (.message { m with body := .list [other, changed, invalidated] }))
        = carryOutLink (.message m) := by
      rw [carryOutLink, carryOutLink, handle_of_interface hbody other]
    exact congrArg (s.perform replies) hact
  · rcases advance_message_cases hs hcarried replies with ⟨hdevice, hnothing⟩ | ⟨hdevice, -, -⟩
    · exact ⟨hdevice, Report.ended_eq_nil (by simp [told, hnothing])⟩
    · exact absurd hdevice hsubject
  · rcases advance_message_cases hs hcarried replies with
      ⟨hdevice, hnothing⟩ | ⟨-, hdevice, hcourse⟩
    · refine ⟨congrArg Device.state hdevice, congrArg Device.characteristics hdevice,
        waitingCalls_eq_of_device (congrArg Device.monitor hdevice), ?_⟩
      exact Report.ended_eq_nil (by simp [told, hnothing])
    · obtain ⟨hupdate, hmerged⟩ := Device.update_of_no_truth hconnected hresolved s.device
      rw [hupdate] at hdevice
      rw [hmerged] at hcourse
      refine ⟨(congrArg Device.state hdevice).trans rfl,
        (congrArg Device.characteristics hdevice).trans rfl,
        waitingCalls_eq_of_device ((congrArg Device.monitor hdevice).trans rfl), ?_⟩
      exact Report.ended_eq_nil (by simp [told, hcourse, Happening.ended?])
  · rcases advance_message_cases hs hcarried replies with ⟨hdevice, -⟩ | ⟨-, hdevice, -⟩
    · rw [hdevice]
    · rw [hdevice, Device.advertisement_update]
      simp only [List.forall_mem_cons, List.not_mem_nil, false_implies, implies_true,
        and_true] at hnames
      obtain ⟨hname, hdata, haddressType, hstrength⟩ := hnames
      simp only [Advertisement.merge, hname, hdata, haddressType, hstrength]

/-- A signal on the path of the device that reports an alias of another interface. -/
theorem foreign_alias_is_counted_only :
    let drives := [([], .transport (.start true none)), ([], .device .listen),
      ([], .device (.connect (.int 0)))]
    let s := ((start (BusLink.initial (.int 30)) (some "/dev") "" (.standard 64)).run drives).1
    let m : Message := { BusLink.signalOf ⟨"/dev", [], []⟩ with
      body := .list ["org.bluez.MediaControl1", .map [("Alias", "Player")], .list []] }
    let told := s.advance [] (.transport (.message m))
    told.1.device.state = s.device.state ∧ told.2.ended = [] ∧
      { told.1.device.advertisement with updates := 0 } = s.device.advertisement ∧
      told.1.device.advertisement.updates = 1 := by
  intro drives s m told
  obtain ⟨-, -, hdriven, hread⟩ := signals_drive_by_path_and_names (.int 30) (some "/dev") ""
    (.standard 64) drives m "org.bluez.MediaControl1" (.map [("Alias", "Player")]) (.list [])
    ⟨"/dev", [("Alias", "Player")], []⟩ [] rfl rfl
  obtain ⟨hstate, -, -, hended⟩ := hdriven rfl rfl
  have hnames : ∀ name ∈ ["Name", "ManufacturerData", "AddressType", "RSSI"],
      Changes.value? [("Alias", "Player")] name = none := by decide
  refine ⟨hstate, hended, hread hnames, ?_⟩
  decide +kernel

/-- A signal of another interface on the path of the device, which says that it is connected, is
taken for one of the device: the connection state follows it, and a call to connect ends. -/
theorem foreign_interface_drives_device :
    let drives := [([], .transport (.start true none)), ([], .device .listen),
      ([], .device (.connect (.int 0)))]
    let s := ((start (BusLink.initial (.int 30)) (some "/dev") "" (.standard 64)).run drives).1
    let m : Message := { BusLink.signalOf ⟨"/dev", [], []⟩ with
      body := .list ["org.bluez.MediaControl1", .map [("Connected", .bool true)], .list []] }
    let told := s.advance [] (.transport (.message m))
    "org.bluez.MediaControl1" ≠ BusNames.deviceInterface ∧
      (∃ x ∈ s.transport.table, x.isOwn = true) ∧ m.path = s.device.path ∧
      (BusLink.carried? m).isSome = true ∧
      s.device.state = .notConnected ∧ s.waitingCalls = [0] ∧
      told.1.device.state = .connected ∧ told.1.waitingCalls = [] := by
  decide +kernel

end Session

end GattPeer
